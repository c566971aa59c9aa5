import ScriptBridge.Pattern.CharSet

/-!
Patterns that texts are searched for.
-/

namespace ScriptBridge

inductive Anchor
  | textStart
  | lineStart
  | textEnd
  /-- The end of the text, or before a line feed that ends it. -/
  | lastLineEnd
  | lineEnd
  | wordBoundary (negated ascii : Bool)
deriving Repr, DecidableEq

/-- Which number of repetitions is tried first, and whether others are tried after it. -/
inductive Greed
  | greedy
  | reluctant
  | possessive
deriving Repr, DecidableEq

inductive Pattern
  | empty
  | charIn (set : CharSet) (mode : CharMode)
  /-- Any character, or any but a line feed. -/
  | anyChar (lineFeeds : Bool)
  | anchor (condition : Anchor)
  | seq (first second : Pattern)
  | alt (first second : Pattern)
  /-- A group whose text is kept under its number. -/
  | group (index : Nat) (body : Pattern)
  | repeated (body : Pattern) (least : Nat) (most : Option Nat) (greed : Greed)
  /-- A pattern that has to match, or must not, from here on; nothing is consumed. -/
  | ahead (negated : Bool) (body : Pattern)
  /-- A pattern of a fixed width that has to match, or must not, up to here. -/
  | behind (negated : Bool) (width : Nat) (body : Pattern)
  /-- The text that a group has kept. -/
  | reference (index : Nat) (mode : CharMode)
  /-- One pattern if a group has kept a text, another if not. -/
  | conditional (index : Nat) (kept missing : Pattern)
  /-- A pattern whose first match is final. -/
  | atomic (body : Pattern)
deriving Repr, DecidableEq

namespace Pattern

def ofList : List Pattern → Pattern
  | [] => .empty
  | [last] => last
  | first :: rest => .seq first (ofList rest)

/-- One of several patterns, the first of them preferred. -/
def anyOf : List Pattern → Pattern
  | [] => .empty
  | [last] => last
  | first :: rest => .alt first (anyOf rest)

/-- The least and the greatest length of the texts that a pattern matches. -/
structure Widths where
  least : Nat
  most : Nat
deriving Repr, DecidableEq

namespace Widths

/-- Lengths are not told apart from here on. -/
def limit : Nat := Nat.pow 2 64

def capped (w : Widths) : Widths := ⟨min w.least limit, min w.most limit⟩

def exactly (n : Nat) : Widths := ⟨n, n⟩

def add (v w : Widths) : Widths := capped ⟨v.least + w.least, v.most + w.most⟩

def either (v w : Widths) : Widths := ⟨min v.least w.least, max v.most w.most⟩

def times (w : Widths) (least : Nat) (most : Option Nat) : Widths :=
  capped ⟨w.least * least,
    match most with
    | some most => w.most * most
    | none => if w.most = 0 then 0 else limit⟩

end Widths

/-- The widths of a pattern, given those of the groups that it refers to. -/
def widths (groups : List (Nat × Widths)) : Pattern → Widths
  | .empty => .exactly 0
  | .charIn _ _ => .exactly 1
  | .anyChar _ => .exactly 1
  | .anchor _ => .exactly 0
  | .seq first second => (first.widths groups).add (second.widths groups)
  | .alt first second => (first.widths groups).either (second.widths groups)
  | .group _ body => body.widths groups
  | .repeated body least most _ => (body.widths groups).times least most
  | .ahead _ _ => .exactly 0
  | .behind _ _ _ => .exactly 0
  | .reference index _ => (groups.lookup index).getD (.exactly 0)
  | .conditional _ kept missing => (kept.widths groups).either (missing.widths groups)
  | .atomic body => body.widths groups

end Pattern

end ScriptBridge
