import ScriptBridge.Text.Blank
import ScriptBridge.Text.CaseMatching
import ScriptBridge.Text.Numeric
import ScriptBridge.Text.Unpaired

/-!
Sets of characters, and when a character counts as one of a set.
-/

namespace ScriptBridge

/-- The classes of characters that patterns have names for. -/
inductive CharClass
  | digit
  | word
  | blank
deriving Repr, DecidableEq

/-- Whether a character is of a class, among all characters or among those of ASCII. -/
def CharClass.holds (ascii : Bool) : CharClass → Char → Bool
  | .digit, c => if ascii then c.isDigit else Text.isDecimal c
  | .word, c => if ascii then c.isAlphanum || c == '_' else Text.isWordChar c
  | .blank, c => if ascii then c == ' ' || 9 ≤ c.toNat && c.toNat ≤ 13 else Text.isBlank c

/-- How the characters of a pattern are compared. -/
structure CharMode where
  ignoreCase : Bool := false
  ascii : Bool := false
deriving Repr, DecidableEq

namespace CharMode

/-- What a character is compared as. -/
def lower (mode : CharMode) (c : Char) : Char :=
  if !mode.ignoreCase then c
  else if mode.ascii then c.toLower
  else Text.lowerChar c

def variants (mode : CharMode) (c : Char) : List Char :=
  if !mode.ignoreCase then [c]
  else if mode.ascii then [c.toLower, c.toUpper]
  else Text.caseVariants c

end CharMode

/-- A member of a set. Code points that are no characters can be members too. -/
inductive CharSet.Item
  | single (code : Nat)
  | range (first last : Nat)
  | ofClass (negated : Bool) (charClass : CharClass)
deriving Repr, DecidableEq

structure CharSet where
  negated : Bool
  items : List CharSet.Item
deriving Repr, DecidableEq

namespace CharSet

def ofCode (code : Nat) : CharSet := { negated := false, items := [.single code] }

/-- The last code point of the basic plane. -/
def lastBasic : Nat := 0xffff

/-- Whether a character is one that an item stands for. Beyond the basic plane, a member of several is
compared with the lower case of the character alone, and a range with its upper case as well. -/
def Item.holds (mode : CharMode) (alone : Bool) (c : Char) : Item → Bool
  | .single code =>
    if alone || code ≤ lastBasic then (mode.variants c).any (Text.codePoint · == code)
    else Text.codePoint (mode.lower c) == code
  | .range first last =>
    let inRange (c : Char) : Bool := first ≤ Text.codePoint c && Text.codePoint c ≤ last
    (mode.variants c).any inRange ||
      mode.ignoreCase && lastBasic < last && inRange (Text.upperChar (mode.lower c))
  | .ofClass negated charClass => charClass.holds mode.ascii c != negated

def contains (set : CharSet) (mode : CharMode) (c : Char) : Bool :=
  (set.items.any fun item => item.holds mode (set.items.length == 1) c) != set.negated

/-- The set of what is in one of several sets that are not negated. -/
def union (sets : List CharSet) : CharSet :=
  { negated := false, items := (sets.flatMap (·.items)).eraseDups }

end CharSet

end ScriptBridge
