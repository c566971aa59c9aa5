/-!
Double precision numbers, exactly: reading decimals with correct rounding, and the fewest decimal
digits that read back.
-/

namespace ScriptBridge

/-- A double precision number: no number, an infinity, or `± mantissa · 2 ^ exponent`. -/
inductive Binary64
  | nan
  | infinite (negative : Bool)
  | finite (negative : Bool) (mantissa : Nat) (exponent : Int)
deriving Repr, DecidableEq

namespace Binary64

/-- The whole number nearest to a fraction, a half going to the even neighbour. -/
def roundHalfEven (numerator denominator : Nat) : Nat :=
  let floor := numerator / denominator
  let twice := 2 * (numerator % denominator)
  if twice < denominator then floor
  else if denominator < twice then floor + 1
  else floor + floor % 2

/-- A fraction in units of `2 ^ exponent`, rounded to a whole number of them. -/
def inUnits (numerator denominator : Nat) (exponent : Int) : Nat :=
  if 0 ≤ exponent then roundHalfEven numerator (denominator * Nat.pow 2 exponent.toNat)
  else roundHalfEven (numerator * Nat.pow 2 (-exponent).toNat) denominator

/-- The largest `k` with `2 ^ k ≤ numerator / denominator`. -/
def binaryOrder (numerator denominator : Nat) : Int :=
  let order : Int := (numerator.log2 : Int) - denominator.log2
  let reached :=
    if 0 ≤ order then denominator * Nat.pow 2 order.toNat ≤ numerator
    else denominator ≤ numerator * Nat.pow 2 (-order).toNat
  if reached then order else order - 1

/-- The double nearest to a fraction. -/
def ofFraction (negative : Bool) (numerator denominator : Nat) : Binary64 :=
  if numerator = 0 then .finite negative 0 0
  else
    let exponent := max (binaryOrder numerator denominator - 52) (-1074)
    let mantissa := inUnits numerator denominator exponent
    let (mantissa, exponent) :=
      if mantissa = Nat.pow 2 53 then (Nat.pow 2 52, exponent + 1) else (mantissa, exponent)
    if 971 < exponent then .infinite negative else .finite negative mantissa exponent

/-- The double nearest to `± digits · 10 ^ exponent`. Exponents far outside the range are decided
without computing the power. -/
def ofDecimal (negative : Bool) (digits : Nat) (exponent : Int) : Binary64 :=
  if digits = 0 then .finite negative 0 0
  else if 400 < exponent then .infinite negative
  else if exponent + digits.log2 < -400 then .finite negative 0 0
  else if 0 ≤ exponent then ofFraction negative (digits * Nat.pow 10 exponent.toNat) 1
  else ofFraction negative digits (Nat.pow 10 (-exponent).toNat)

/-- The whole part of a finite number, toward zero. -/
def truncate (negative : Bool) (mantissa : Nat) (exponent : Int) : Int :=
  let whole : Nat :=
    if 0 ≤ exponent then mantissa * Nat.pow 2 exponent.toNat
    else mantissa / Nat.pow 2 (-exponent).toNat
  if negative then -(whole : Int) else whole

def wholeNumber? : Binary64 → Option Int
  | .finite negative mantissa exponent =>
    if 0 ≤ exponent || mantissa % Nat.pow 2 (-exponent).toNat == 0 then
      some (truncate negative mantissa exponent)
    else none
  | _ => none

def isZero : Binary64 → Bool
  | .finite _ 0 _ => true
  | _ => false

/-! ### Fewest digits -/

/-- The `p` with `10 ^ (p - 1) ≤ numerator / denominator < 10 ^ p`. -/
def decimalPoint (numerator denominator : Nat) : Int :=
  if denominator ≤ numerator then (Nat.toDigits 10 (numerator / denominator)).length
  else
    let width := (Nat.toDigits 10 (denominator / numerator)).length
    if numerator * Nat.pow 10 (width - 1) = denominator then 2 - (width : Int) else 1 - (width : Int)

/-- The two neighbours of a fraction on the grid of multiples of `10 ^ exponent`, the nearer first. -/
def neighbours (numerator denominator : Nat) (exponent : Int) : List Nat :=
  let (numerator, denominator) :=
    if 0 ≤ exponent then (numerator, denominator * Nat.pow 10 exponent.toNat)
    else (numerator * Nat.pow 10 (-exponent).toNat, denominator)
  let floor := numerator / denominator
  if roundHalfEven numerator denominator = floor then [floor, floor + 1] else [floor + 1, floor]

/-- The decimal of fewest digits, and the nearest of those, that reads back as the number: its digits
and its exponent. -/
def shortest (mantissa : Nat) (exponent : Int) : Nat × Int :=
  let numerator := if 0 ≤ exponent then mantissa * Nat.pow 2 exponent.toNat else mantissa
  let denominator := if 0 ≤ exponent then 1 else Nat.pow 2 (-exponent).toNat
  let point := decimalPoint numerator denominator
  let candidates := (List.range 17).flatMap fun (n : Nat) =>
    let unit := point - ((n : Int) + 1)
    (neighbours numerator denominator unit).map fun digits => (digits, unit)
  let number := ofFraction false numerator denominator
  (candidates.find? fun (digits, unit) => ofDecimal false digits unit == number).getD (mantissa, 0)

/-- Numbers from `10 ^ -4` up to `10 ^ 16` are written positionally and keep a digit after the point;
others have an exponent of at least two digits. -/
def decimalText (digits : Nat) (exponent : Int) : List Char :=
  let shown := (Nat.toDigits 10 digits).reverse.dropWhile (· == '0') |>.reverse
  let point : Int := (Nat.toDigits 10 digits).length + exponent
  if 0 < point ∧ point ≤ 16 then
    let whole := point.toNat
    if shown.length ≤ whole then
      shown ++ List.replicate (whole - shown.length) '0' ++ ['.', '0']
    else shown.take whole ++ '.' :: shown.drop whole
  else if -4 < point ∧ point ≤ 0 then
    '0' :: '.' :: List.replicate (-point).toNat '0' ++ shown
  else
    let order := point - 1
    let power := Nat.toDigits 10 order.natAbs
    shown.take 1 ++ (if 1 < shown.length then '.' :: shown.drop 1 else []) ++
      'e' :: (if order < 0 then '-' else '+') :: List.replicate (2 - power.length) '0' ++ power

def text : Binary64 → String
  | .nan => "nan"
  | .infinite negative => if negative then "-inf" else "inf"
  | .finite negative mantissa exponent =>
    let digits :=
      if mantissa = 0 then ['0', '.', '0']
      else
        let (digits, unit) := shortest mantissa exponent
        decimalText digits unit
    String.ofList (if negative then '-' :: digits else digits)

end Binary64

end ScriptBridge
