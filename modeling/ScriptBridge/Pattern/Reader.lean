import ScriptBridge.Number.IntegerLiteral
import ScriptBridge.Pattern
import ScriptBridge.Pattern.Escape
import ScriptBridge.Text.Identifier

/-!
Reading patterns: alternatives of sequences of characters, sets, anchors, groups and assertions, with
repetition counts.
-/

namespace ScriptBridge

namespace Pattern.Reader

/-! ### Switches -/

structure Switches where
  ignoreCase : Bool := false
  multiline : Bool := false
  dotAll : Bool := false
  verbose : Bool := false
  ascii : Bool := false
  wide : Bool := false
  /-- No repetition is allowed. -/
  unrepeated : Bool := false
deriving Repr

namespace Switches

def mode (s : Switches) : CharMode := { ignoreCase := s.ignoreCase, ascii := s.ascii }

def set (value : Bool) (s : Switches) : Char → Switches
  | 'i' => { s with ignoreCase := value }
  | 'm' => { s with multiline := value }
  | 's' => { s with dotAll := value }
  | 'x' => { s with verbose := value }
  | 'a' => { s with ascii := value }
  | 'u' => { s with wide := value }
  | 't' => { s with unrepeated := value }
  | _ => s

/-- Whether letters set both the switch for ASCII and the one for all characters. -/
def exclude (letters : List Char) : Bool :=
  letters.contains 'a' && letters.contains 'u'

def setAll (s : Switches) (on : List Char) : Option Switches :=
  if exclude on then none else some (on.foldl (set true) s)

/-- Sets and unsets switches for a group. Of the switches for ASCII and for all characters, one that is
set takes the place of the other, and none can be unset. -/
def setWithin (s : Switches) (on off : List Char) : Option Switches :=
  if exclude on || on.contains 't' || off.any fun c => on.contains c || "aut".toList.contains c then none
  else
    let s := if on.any "au".toList.contains then { s with ascii := false, wide := false } else s
    some (off.foldl (set false) (on.foldl (set true) s))

end Switches

def isSwitch (c : Char) : Bool := "imsxaut".toList.contains c

/-- The letters at the start of a group that sets switches. -/
structure SwitchLetters where
  on : List Char
  off : List Char
  /-- Whether the switches are for a body that follows, and not for the whole pattern. -/
  hasBody : Bool

def switchLetters? (tokens : List Token) : Option (SwitchLetters × List Token) :=
  let (on, rest) := Token.spanChars isSwitch tokens
  match rest with
  | .char ')' :: rest => if on.isEmpty then none else some (⟨on, [], false⟩, rest)
  | .char ':' :: rest => if on.isEmpty then none else some (⟨on, [], true⟩, rest)
  | .char '-' :: more =>
    match Token.spanChars isSwitch more with
    | (off, .char ':' :: rest) => if off.isEmpty then none else some (⟨on, off, true⟩, rest)
    | _ => none
  | _ => none

/-! ### What verbose patterns pass over -/

/-- White space that a verbose pattern may hold anywhere. -/
def isFiller (c : Char) : Bool := c == ' ' || 9 ≤ c.toNat && c.toNat ≤ 13

/-- The tokens after a comment that goes to the end of its line. -/
def afterLine (tokens : List Token) : List Token :=
  (Token.after? '\n' tokens).getD []

/-- The switches for the whole pattern, which stand at its start. -/
def leadingSwitches : (fuel : Nat) → Switches → List Token → Switches × List Token
  | 0, switches, tokens => (switches, tokens)
  | fuel + 1, switches, tokens =>
    match tokens with
    | .char '(' :: .char '?' :: .char '#' :: more =>
      match Token.after? ')' more with
      | some rest => leadingSwitches fuel switches rest
      | none => (switches, tokens)
    | .char '(' :: .char '?' :: more =>
      match switchLetters? more with
      | some (⟨on, _, false⟩, rest) =>
        match switches.setAll on with
        | some switches => leadingSwitches fuel switches rest
        | none => (switches, tokens)
      | _ => (switches, tokens)
    | .char c :: more =>
      if switches.verbose && isFiller c then leadingSwitches fuel switches more
      else if switches.verbose && c == '#' then leadingSwitches fuel switches (afterLine more)
      else (switches, tokens)
    | _ => (switches, tokens)

/-! ### Repetitions -/

/-- Counts of repetitions have to stay below this. -/
def repetitionLimit : Nat := 4294967295

def count (digits : List Char) : Except Fault Nat :=
  if IntegerLiteral.digitLimit < digits.length then .error .tooManyDigits
  else if repetitionLimit ≤ numberIn 10 digits then .error .repetitionTooLarge
  else .ok (numberIn 10 digits)

/-- The counts between braces whose opening one has been read. None if the brace stands for itself. -/
def counts? (tokens : List Token) : Except Fault (Option (Nat × Option Nat × List Token)) :=
  let (low, afterLow) := Token.spanChars Char.isDigit tokens
  let (high, rest) :=
    match afterLow with
    | .char ',' :: more => Token.spanChars Char.isDigit more
    | _ => (low, afterLow)
  match tokens, rest with
  | .char '\x7d' :: _, _ => .ok none
  | _, .char '\x7d' :: .dangling :: _ => malformed
  | _, .char '\x7d' :: rest => do
    let least ← count low
    if high.isEmpty then return some (least, none, rest)
    else
      let most ← count high
      if most < least then malformed else return some (least, some most, rest)
  | _, _ => .ok none

/-- How the repetition that has been read is tried: a question mark or a plus may follow it. -/
def greed : List Token → Greed × List Token
  | .char '?' :: rest => (.reluctant, rest)
  | .char '+' :: rest => (.possessive, rest)
  | tokens => (.greedy, tokens)

/-! ### Parts of sequences -/

/-- A part of a sequence. The plain ones are characters, sets, anchors and references. -/
structure Item where
  pattern : Pattern
  isPlain : Bool
deriving Repr, DecidableEq

def Item.sequence (items : List Item) : Pattern :=
  .ofList (items.map (·.pattern))

/-- The plain items that a sequence and others all start with, and what is left of each. -/
def Item.sharedStart : List Item → List (List Item) → List Item × List (List Item)
  | [], others => ([], [] :: others)
  | item :: rest, others =>
    if item.isPlain && others.all (·.head? == some item) then
      let (shared, rests) := sharedStart rest (others.map List.tail)
      (item :: shared, rests)
    else ([], (item :: rest) :: others)

/-- The set that a sequence of one item is, and how it is compared. -/
def Item.charSet? : List Item → Option (CharSet × CharMode)
  | [⟨.charIn set mode, true⟩] => if set.negated then none else some (set, mode)
  | _ => none

/-- Alternatives as a sequence: what they share comes first, and then one set if each of them is a set. -/
def Item.alternatives : List (List Item) → List Item
  | [] => []
  | [only] => only
  | first :: others =>
    let (shared, rests) := sharedStart first others
    match rests.mapM charSet? with
    | some ((set, mode) :: sets) =>
      shared ++ [⟨.charIn (.union (set :: sets.map (·.1))) mode, true⟩]
    | _ => shared ++ [⟨.anyOf (rests.map sequence), false⟩]

/-- What has been read between two places that a repetition count may follow. -/
structure Piece where
  items : List Item
  repeatable : Bool

namespace Piece

def plain (pattern : Pattern) : Piece := ⟨[⟨pattern, true⟩], true⟩

def compound (pattern : Pattern) : Piece := ⟨[⟨pattern, false⟩], true⟩

def anchor (condition : Anchor) : Piece := ⟨[⟨.anchor condition, true⟩], false⟩

/-- The last piece, repeated. -/
def repeatLast (pieces : List Piece) (least : Nat) (most : Option Nat) (greed : Greed) :
    Except Fault (List Piece) :=
  match pieces.getLast? with
  | some piece =>
    if piece.repeatable then
      let repeated := Pattern.repeated (Item.sequence piece.items) least most greed
      .ok (pieces.dropLast ++ [⟨[⟨repeated, false⟩], false⟩])
    else malformed
  | none => malformed

end Piece

/-! ### Groups -/

/-- The groups opened so far. -/
structure Groups where
  opened : Nat := 0
  /-- The groups closed so far. -/
  widths : List (Nat × Widths) := []
  names : List (String × Nat) := []
  /-- The groups that conditions refer to by number. -/
  conditions : List Nat := []
  /-- Whether a part cannot be used, which counts only once the whole has been read. -/
  isUnusable : Bool := false

/-- Where something is read: the switches, and the groups there were at the start of the outermost
assertion about what lies behind. -/
structure Scope where
  switches : Switches
  groupsBehind : Option Nat := none

def openGroup (groups : Groups) (name : Option String) : Except Fault (Nat × Groups) :=
  let index := groups.opened + 1
  match name with
  | none => .ok (index, { groups with opened := index })
  | some name =>
    if (groups.names.lookup name).isSome then malformed
    else .ok (index, { groups with opened := index, names := groups.names ++ [(name, index)] })

def closeGroup (groups : Groups) (index : Nat) (body : Pattern) : Groups :=
  { groups with widths := (index, body.widths groups.widths) :: groups.widths }

/-- Whether a reference to a group can stand in a place: the group is closed, and if the place looks
behind, was closed before it. -/
def canRefer (scope : Scope) (groups : Groups) (index : Nat) : Bool :=
  (groups.widths.lookup index).isSome && scope.groupsBehind.all (index ≤ ·)

def reference (scope : Scope) (groups : Groups) (index : Nat) : Except Fault Piece :=
  if canRefer scope groups index then .ok (.plain (.reference index scope.switches.mode)) else malformed

/-- The group that a condition refers to by its name or its number. -/
def condition (groups : Groups) (name : List Char) : Except Fault (Nat × Groups) :=
  if Text.isIdentifier name then
    match groups.names.lookup (String.ofList name) with
    | some index => .ok (index, groups)
    | none => malformed
  else
    match IntegerLiteral.value? (String.ofList name) with
    | some (.ofNat (index + 1)) =>
      .ok (index + 1, { groups with conditions := (index + 1) :: groups.conditions })
    | _ => malformed

/-- Widths from here on are too great to look behind. -/
def behindLimit : Nat := Nat.pow 2 32

/-- An assertion about what lies behind, whose pattern needs a fixed width. -/
def lookBehind (negated : Bool) (body : Pattern) (groups : Groups) : Piece × Groups :=
  let widths := body.widths groups.widths
  let fits := widths.least = widths.most && widths.least < behindLimit
  (.compound (.behind negated widths.least body),
    if fits then groups else { groups with isUnusable := true })

/-- An escape outside sets, its backslash and character already read. -/
def escape (scope : Scope) (groups : Groups) (c : Char) (tokens : List Token) :
    Except Fault (Piece × List Token) :=
  let ofSet (set : CharSet) : Piece := .plain (.charIn set scope.switches.mode)
  match c with
  | 'A' => .ok (.anchor .textStart, tokens)
  | 'Z' => .ok (.anchor .textEnd, tokens)
  | 'b' => .ok (.anchor (.wordBoundary false scope.switches.ascii), tokens)
  | 'B' => .ok (.anchor (.wordBoundary true scope.switches.ascii), tokens)
  | '0' => do
    let (code, rest) ← octalEscape c tokens
    return (ofSet (.ofCode code), rest)
  | _ =>
    if c.isDigit then
      match Token.takeChars isOctalDigit 2 tokens with
      | ([d, e], rest) =>
        if isOctalDigit c then do
          let (code, _) ← octalEscape c [.char d, .char e]
          return (ofSet (.ofCode code), rest)
        else groupReference
      | _ => groupReference
    else
      match classEscape? c with
      | some item => .ok (ofSet { negated := false, items := [item] }, tokens)
      | none => do
        let (code, rest) ← commonEscape c tokens
        return (ofSet (.ofCode code), rest)
where
  groupReference : Except Fault (Piece × List Token) := do
    let (more, rest) := Token.takeChars Char.isDigit 1 tokens
    return (← reference scope groups (numberIn 10 (c :: more)), rest)

/-- What has been read, the groups so far, and the tokens after it. -/
abbrev Read (α : Type) := α × Groups × List Token

mutual

/-- Alternatives up to a closing parenthesis or the end. -/
def alternatives : (fuel : Nat) → Scope → List (List Item) → Groups → List Token →
    Except Fault (Read (List Item))
  | 0, _, _, _, _ => malformed
  | fuel + 1, scope, read, groups, tokens => do
    let (items, groups, rest) ← sequence fuel scope [] groups tokens
    let read := read ++ [items]
    match rest with
    | .char '|' :: rest => alternatives fuel scope read groups rest
    | _ => return (Item.alternatives read, groups, rest)

/-- A sequence up to a bar, a closing parenthesis or the end. -/
def sequence : (fuel : Nat) → Scope → List Piece → Groups → List Token →
    Except Fault (Read (List Item))
  | 0, _, _, _, _ => malformed
  | fuel + 1, scope, pieces, groups, tokens =>
    let continueWith (piece : Piece) (groups : Groups) (rest : List Token) :
        Except Fault (Read (List Item)) :=
      sequence fuel scope (pieces ++ [piece]) groups rest
    let repeated (least : Nat) (most : Option Nat) (rest : List Token) :
        Except Fault (Read (List Item)) :=
      let (greed, rest) := greed rest
      let groups := { groups with isUnusable := groups.isUnusable || scope.switches.unrepeated }
      match Piece.repeatLast pieces least most greed with
      | .ok pieces => sequence fuel scope pieces groups rest
      | .error fault => .error fault
    let finished : Except Fault (Read (List Item)) :=
      .ok (pieces.flatMap (·.items), groups, tokens)
    let switches := scope.switches
    match tokens with
    | [] => finished
    | .dangling :: _ => malformed
    | .escaped c :: rest => do
      let (piece, rest) ← escape scope groups c rest
      continueWith piece groups rest
    | .char c :: rest =>
      if c == '|' || c == ')' then finished
      else if switches.verbose && isFiller c then sequence fuel scope pieces groups rest
      else if switches.verbose && c == '#' then sequence fuel scope pieces groups (afterLine rest)
      else
        match c with
        | '[' => do
          let (set, rest) ← charSet rest
          continueWith (.plain (.charIn set switches.mode)) groups rest
        | '.' => continueWith (.plain (.anyChar switches.dotAll)) groups rest
        | '^' => continueWith (.anchor (if switches.multiline then .lineStart else .textStart)) groups rest
        | '$' => continueWith (.anchor (if switches.multiline then .lineEnd else .lastLineEnd)) groups rest
        | '?' => repeated 0 (some 1) rest
        | '*' => repeated 0 none rest
        | '+' => repeated 1 none rest
        | '\x7b' => do
          match ← counts? rest with
          | some (least, most, rest) => repeated least most rest
          | none => continueWith (.plain (.charIn (.ofCode (Text.codePoint c)) switches.mode)) groups rest
        | '(' => do
          match rest with
          | .char '?' :: .char '#' :: more =>
            match Token.after? ')' more with
            | some rest => sequence fuel scope pieces groups rest
            | none => malformed
          | .char '?' :: more =>
            let (piece, groups, rest) ← special fuel scope groups more
            continueWith piece groups rest
          | _ =>
            let (piece, groups, rest) ← capture fuel scope none groups rest
            continueWith piece groups rest
        | _ => continueWith (.plain (.charIn (.ofCode (Text.codePoint c)) switches.mode)) groups rest

/-- A group that keeps its text. -/
def capture : (fuel : Nat) → Scope → Option String → Groups → List Token → Except Fault (Read Piece)
  | 0, _, _, _, _ => malformed
  | fuel + 1, scope, name, groups, tokens => do
    let (index, groups) ← openGroup groups name
    let (items, groups, rest) ← enclosed fuel scope groups tokens
    let body := Item.sequence items
    return (.compound (.group index body), closeGroup groups index body, rest)

/-- Alternatives and the parenthesis that closes them. -/
def enclosed : (fuel : Nat) → Scope → Groups → List Token → Except Fault (Read (List Item))
  | 0, _, _, _ => malformed
  | fuel + 1, scope, groups, tokens => do
    match ← alternatives fuel scope [] groups tokens with
    | (items, groups, .char ')' :: rest) => return (items, groups, rest)
    | _ => malformed

/-- The branches of a condition and the parenthesis that closes them. -/
def branches : (fuel : Nat) → Scope → Nat → Groups → List Token → Except Fault (Read Piece)
  | 0, _, _, _, _ => malformed
  | fuel + 1, scope, index, groups, tokens => do
    let piece (kept missing : List Item) : Piece :=
      .compound (.conditional index (Item.sequence kept) (Item.sequence missing))
    match ← sequence fuel scope [] groups tokens with
    | (kept, groups, .char ')' :: rest) => return (piece kept [], groups, rest)
    | (kept, groups, .char '|' :: rest) =>
      match ← sequence fuel scope [] groups rest with
      | (missing, groups, .char ')' :: rest) => return (piece kept missing, groups, rest)
      | _ => malformed
    | _ => malformed

/-- A group that starts with a question mark, which has been read. -/
def special : (fuel : Nat) → Scope → Groups → List Token → Except Fault (Read Piece)
  | 0, _, _, _ => malformed
  | fuel + 1, scope, groups, tokens => do
    match tokens with
    | .char 'P' :: .char '<' :: more =>
      match Token.upTo? '>' more with
      | some (name, rest) =>
        if Text.isIdentifier name then capture fuel scope (some (String.ofList name)) groups rest
        else malformed
      | none => malformed
    | .char 'P' :: .char '=' :: more =>
      match Token.upTo? ')' more with
      | some (name, rest) =>
        match groups.names.lookup (String.ofList name) with
        | some index => return (← reference scope groups index, groups, rest)
        | none => malformed
      | none => malformed
    | .char ':' :: more =>
      let (items, groups, rest) ← enclosed fuel scope groups more
      return (⟨items, true⟩, groups, rest)
    | .char '>' :: more =>
      let (items, groups, rest) ← enclosed fuel scope groups more
      return (.compound (.atomic (Item.sequence items)), groups, rest)
    | .char '=' :: more =>
      let (items, groups, rest) ← enclosed fuel scope groups more
      return (.compound (.ahead false (Item.sequence items)), groups, rest)
    | .char '!' :: more =>
      let (items, groups, rest) ← enclosed fuel scope groups more
      return (.compound (.ahead true (Item.sequence items)), groups, rest)
    | .char '<' :: .char mark :: more =>
      if mark == '=' || mark == '!' then
        let inner := { scope with groupsBehind := scope.groupsBehind.or (some groups.opened) }
        let (items, groups, rest) ← enclosed fuel inner groups more
        let (piece, groups) := lookBehind (mark == '!') (Item.sequence items) groups
        return (piece, groups, rest)
      else malformed
    | .char '(' :: more =>
      match Token.upTo? ')' more with
      | some (name, rest) =>
        let (index, groups) ← condition groups name
        if scope.groupsBehind.isNone || canRefer scope groups index then
          branches fuel scope index groups rest
        else malformed
      | none => malformed
    | _ =>
      match switchLetters? tokens with
      | some (⟨on, off, true⟩, rest) =>
        match scope.switches.setWithin on off with
        | some switches =>
          let (items, groups, rest) ← enclosed fuel { scope with switches } groups rest
          return (.compound (Item.sequence items), groups, rest)
        | none => malformed
      | _ => malformed

end

end Pattern.Reader

/-- A pattern, and the groups that replacements may refer to. -/
structure NumberedPattern where
  pattern : Pattern
  groupCount : Nat
  names : List (String × Nat)
deriving Repr, DecidableEq

namespace NumberedPattern

open Pattern

/-- The pattern a text denotes. A backslash at the very end is never part of one. -/
def read (text : String) : Except Fault NumberedPattern := do
  let tokens := Token.ofChars text.toList
  let (switches, body) := Reader.leadingSwitches (tokens.length + 1) {} tokens
  let (items, groups, rest) ←
    Reader.alternatives (6 * tokens.length + 6) { switches } [] {} body
  if rest.isEmpty && tokens.contains .dangling then .error .malformed
  else if switches.ascii && switches.wide then .error .conflictingSwitches
  else if !rest.isEmpty || groups.isUnusable || groups.conditions.any (groups.opened < ·) then
    .error .malformed
  else
    return { pattern := Reader.Item.sequence items, groupCount := groups.opened, names := groups.names }

end NumberedPattern

end ScriptBridge
