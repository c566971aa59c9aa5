import ScriptBridge.Pattern

/-!
Searching texts for a pattern. A pattern is matched by recursion on it: what has to match after it is
passed along, so that earlier choices are taken back when that fails.
-/

namespace ScriptBridge

namespace Pattern

/-- A group that has been matched: where it ended, and its text. -/
structure Kept where
  stop : Nat
  text : List Char
deriving Repr

/-- A position in a text, where the groups so far start, and what those that have ended keep. The
characters before the position are kept nearest first. -/
structure State where
  before : List Char
  after : List Char
  starts : List (Nat × Nat) := []
  groups : List (Nat × Kept) := []
deriving Repr

namespace State

def position (s : State) : Nat := s.before.length

/-- The text between an earlier position and this one. -/
def since (s : State) (position : Nat) : List Char :=
  (s.before.take (s.position - position)).reverse

def back (s : State) (n : Nat) : State :=
  { s with before := s.before.drop n, after := (s.before.take n).reverse ++ s.after }

def openGroup (s : State) (index : Nat) : State :=
  { s with starts := (index, s.position) :: s.starts }

def closeGroup (s : State) (index start : Nat) : State :=
  { s with groups := (index, ⟨s.position, s.since start⟩) :: s.groups }

def group? (s : State) (index : Nat) : Option (List Char) :=
  (s.groups.lookup index).map (·.text)

/-- Whether a group has a text and, if it has started again since, did so where the text ends. -/
def keeps (s : State) (index : Nat) : Bool :=
  match s.groups.lookup index, s.starts.lookup index with
  | some kept, some start => start ≤ kept.stop
  | _, _ => false

def withGroups (s t : State) : State :=
  { s with starts := t.starts, groups := t.groups }

end State

/-- Whether a position lies between a word character and something else. No position of an empty text
is on a boundary or off one. -/
def atBoundary (negated ascii : Bool) (s : State) : Bool :=
  let isWord : List Char → Bool
    | c :: _ => CharClass.word.holds ascii c
    | [] => false
  !(s.before.isEmpty && s.after.isEmpty) && (isWord s.before != isWord s.after) != negated

def holdsAt (s : State) : Anchor → Bool
  | .textStart => s.before.isEmpty
  | .lineStart => s.before.isEmpty || s.before.head? == some '\n'
  | .textEnd => s.after.isEmpty
  | .lastLineEnd => s.after.isEmpty || s.after == ['\n']
  | .lineEnd => s.after.isEmpty || s.after.head? == some '\n'
  | .wordBoundary negated ascii => atBoundary negated ascii s

/-- The state after one character of a kind. -/
def next (accepts : Char → Bool) (s : State) : Option State :=
  match s.after with
  | c :: rest => if accepts c then some { s with before := c :: s.before, after := rest } else none
  | [] => none

/-- The state after a text that has to come next, compared under a mode. -/
def nextText (mode : CharMode) (text : List Char) (s : State) : Option State :=
  match text with
  | [] => some s
  | c :: rest => (next (fun d => mode.lower d == mode.lower c) s).bind (nextText mode rest)

/-- Repetitions of a step. Beyond the least number, a repetition that starts where the one before it
started is not made. The fuel bounds the number of repetitions. -/
def iterate (step : (State → Option State) → State → Option State) (least : Nat) (most : Option Nat)
    (greed : Greed) (k : State → Option State) :
    (fuel count : Nat) → (last : Option Nat) → State → Option State
  | 0, _, _, _ => none
  | fuel + 1, count, last, s =>
    if count < least then step (iterate step least most greed k fuel (count + 1) last) s
    else
      let again : Unit → Option State := fun _ =>
        if most.all (count < ·) && last != some s.position then
          step (iterate step least most greed k fuel (count + 1) (some s.position)) s
        else none
      match greed with
      | .reluctant =>
        match k s with
        | some result => some result
        | none => again ()
      | _ =>
        match again () with
        | some result => some result
        | none => k s

/-- Matches a pattern at a position, and then what has to match after it. -/
def run : Pattern → (State → Option State) → State → Option State
  | .empty, k, s => k s
  | .charIn set mode, k, s => (next (set.contains mode) s).bind k
  | .anyChar lineFeeds, k, s => (next (fun c => lineFeeds || c != '\n') s).bind k
  | .anchor condition, k, s => if holdsAt s condition then k s else none
  | .seq first second, k, s => run first (run second k) s
  | .alt first second, k, s =>
    match run first k s with
    | some result => some result
    | none => run second k s
  | .group index body, k, s =>
    run body (fun t => k (t.closeGroup index s.position)) (s.openGroup index)
  | .repeated body least most greed, k, s =>
    let fuel := least + s.after.length + 2
    match greed with
    | .possessive =>
      (iterate (fun k' t => (run body some t).bind k') least most .greedy some fuel 0 none s).bind k
    | _ => iterate (run body) least most greed k fuel 0 none s
  | .ahead negated body, k, s =>
    match run body some s with
    | some t => if negated then none else k (s.withGroups t)
    | none => if negated then k s else none
  | .behind negated width body, k, s =>
    let found := if width ≤ s.position then run body some (s.back width) else none
    match found with
    | some t => if negated then none else k (s.withGroups t)
    | none => if negated then k s else none
  | .reference index mode, k, s =>
    match s.group? index with
    | some text => (nextText mode text s).bind k
    | none => none
  | .conditional index kept missing, k, s =>
    if s.keeps index then run kept k s else run missing k s
  | .atomic body, k, s => (run body some s).bind k

/-- Where a match starts, and the state at its end. -/
structure Found where
  start : Nat
  state : State
deriving Repr

namespace Found

def whole (found : Found) : List Char := found.state.since found.start

/-- The text of a group, empty if it took no part. Group zero is the whole match. -/
def group (found : Found) (index : Nat) : List Char :=
  if index = 0 then found.whole else (found.state.group? index).getD []

end Found

/-- The first match at or after a position. If it has to advance, an empty match at the very position
does not count. -/
def search (pattern : Pattern) (mustAdvance : Bool) (before : List Char) (after : List Char) :
    Option Found :=
  let start : State := { before, after }
  let accept (t : State) : Option State :=
    if mustAdvance && t.position == start.position then none else some t
  match run pattern accept start with
  | some state => some { start := start.position, state }
  | none =>
    match after with
    | [] => none
    | c :: rest => search pattern false (c :: before) rest

def occurs (pattern : Pattern) (text : List Char) : Bool :=
  (pattern.search false [] text).isSome

/-- The text from a position on, with every match replaced. After an empty match the next has to
advance, so that there are at most two matches for each position. -/
def replaceFrom (pattern : Pattern) (replacement : Found → List Char) :
    (fuel : Nat) → (mustAdvance : Bool) → (before after : List Char) → List Char
  | 0, _, _, after => after
  | fuel + 1, mustAdvance, before, after =>
    match pattern.search mustAdvance before after with
    | none => after
    | some found =>
      let rest := replaceFrom pattern replacement fuel
        (found.state.position == found.start) found.state.before found.state.after
      after.take (found.start - before.length) ++ replacement found ++ rest

/-- A text with every match of a pattern replaced, empty matches too. -/
def replaceAll (pattern : Pattern) (replacement : Found → List Char) (text : List Char) : List Char :=
  replaceFrom pattern replacement (2 * text.length + 2) false [] text

end Pattern

end ScriptBridge
