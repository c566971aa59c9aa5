import ScriptBridge.Text.Blank
import ScriptBridge.Text.Numeric

/-!
Whole numbers written as text: blanks around them, a sign, and digits of any script with single
underscores between them.
-/

namespace ScriptBridge.IntegerLiteral

open Text

def digitLimit : Nat := 4300

/-- A number has not more digits than are written or read. -/
def IsShort (n : Int) : Prop :=
  n.natAbs < Nat.pow 10 digitLimit

instance (n : Int) : Decidable (IsShort n) :=
  inferInstanceAs (Decidable (_ < _))

theorem isShort_zero : IsShort 0 := by
  have hpositive : ∀ digits, 0 < Nat.pow 10 digits := fun _ => Nat.pow_pos (Nat.succ_pos 9)
  exact hpositive digitLimit

/-- Blanks of ASCII, without the separators U+001C to U+001F. -/
def isPlainBlank (c : Char) : Bool :=
  c == ' ' || (9 ≤ c.toNat && c.toNat ≤ 13)

def isOuterBlank (c : Char) : Bool :=
  if c.toNat < 128 then isPlainBlank c else isBlank c

/-- The value of digits between which single underscores may stand. -/
def digitsValue? (text : List Char) : Option Nat :=
  match text with
  | [] => none
  | c :: _ =>
    if c == '_' then none
    else go 0 false text
where
  go (value : Nat) (afterMark : Bool) : List Char → Option Nat
    | [] => if afterMark then none else some value
    | c :: rest =>
      if c == '_' then
        if afterMark then none else go value true rest
      else
        match decimalValue? c with
        | some digit => go (10 * value + digit) false rest
        | none => none

def value? (text : String) : Option Int :=
  let body := trimWhile isOuterBlank text.toList
  let (negative, digits) :=
    match body with
    | '-' :: rest => (true, rest)
    | '+' :: rest => (false, rest)
    | _ => (false, body)
  if digitLimit < (digits.filter (· != '_')).length then none
  else (digitsValue? digits).map fun n => if negative then -(n : Int) else n

end ScriptBridge.IntegerLiteral
