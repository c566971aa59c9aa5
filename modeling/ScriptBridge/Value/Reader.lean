import ScriptBridge.Number.IntegerLiteral
import ScriptBridge.Text.Unpaired
import ScriptBridge.Value

/-!
Reading a value from JSON text. Besides the standard's grammar the names `NaN`, `Infinity` and
`-Infinity` are numbers, and the last of several fields of one name counts.
-/

namespace ScriptBridge.Value

inductive ReadFault
  | malformed
  | tooManyDigits
deriving Repr, DecidableEq

namespace Reader

def isSpace (c : Char) : Bool :=
  c == ' ' || c == '\t' || c == '\n' || c == '\r'

def skipSpace (chars : List Char) : List Char :=
  chars.dropWhile isSpace

def hexValue? (c : Char) : Option Nat :=
  if '0' ≤ c && c ≤ '9' then some (c.toNat - '0'.toNat)
  else if 'a' ≤ c && c ≤ 'f' then some (c.toNat - 'a'.toNat + 10)
  else if 'A' ≤ c && c ≤ 'F' then some (c.toNat - 'A'.toNat + 10)
  else none

/-- The code unit of four hexadecimal digits, and what follows them. -/
def hexUnit? : List Char → Option (Nat × List Char)
  | a :: b :: c :: d :: rest => do
    let a ← hexValue? a
    let b ← hexValue? b
    let c ← hexValue? c
    let d ← hexValue? d
    return (((a * 16 + b) * 16 + c) * 16 + d, rest)
  | _ => none

def simpleEscape? : Char → Option Char
  | '"' => some '"'
  | '\\' => some '\\'
  | '/' => some '/'
  | 'b' => some '\x08'
  | 'f' => some '\x0c'
  | 'n' => some '\n'
  | 'r' => some '\r'
  | 't' => some '\t'
  | _ => none

/-- The character of an escape whose code unit has been read: a high surrogate takes the escape of a
low one with it, and a surrogate without its other half stays one. -/
def unitChar (unit : Nat) (rest : List Char) : Char × List Char :=
  if Text.isHighSurrogate unit then
    match rest with
    | '\\' :: 'u' :: more =>
      match hexUnit? more with
      | some (low, tail) =>
        if Text.isLowSurrogate low then
          (Char.ofNat (0x10000 + (unit - 0xd800) * 0x400 + (low - 0xdc00)), tail)
        else (Text.ofSurrogate unit, rest)
      | none => (Text.ofSurrogate unit, rest)
    | _ => (Text.ofSurrogate unit, rest)
  else if Text.isLowSurrogate unit then (Text.ofSurrogate unit, rest)
  else (Char.ofNat unit, rest)

/-- The characters up to the closing quote, and what follows it. -/
def stringBody : Nat → List Char → Except ReadFault (List Char × List Char)
  | 0, _ => .error .malformed
  | _, [] => .error .malformed
  | fuel + 1, c :: rest =>
    if c == '"' then .ok ([], rest)
    else if c == '\\' then
      match rest with
      | 'u' :: more =>
        match hexUnit? more with
        | some (unit, tail) => do
          let (decoded, tail) := unitChar unit tail
          let (body, tail) ← stringBody fuel tail
          return (decoded :: body, tail)
        | none => .error .malformed
      | escape :: more =>
        match simpleEscape? escape with
        | some decoded => do
          let (body, tail) ← stringBody fuel more
          return (decoded :: body, tail)
        | none => .error .malformed
      | [] => .error .malformed
    else if c.toNat < 0x20 then .error .malformed
    else do
      let (body, tail) ← stringBody fuel rest
      return (c :: body, tail)

def digitsNumber (digits : List Char) : Nat :=
  digits.foldl (fun n c => 10 * n + (c.toNat - '0'.toNat)) 0

/-- Digits with a point before them, if they follow. -/
def fraction : List Char → List Char × List Char
  | '.' :: rest =>
    let digits := rest.takeWhile Char.isDigit
    if digits.isEmpty then ([], '.' :: rest) else (digits, rest.dropWhile Char.isDigit)
  | chars => ([], chars)

/-- An exponent, if one follows. -/
def exponent (chars : List Char) : Option Int × List Char :=
  match chars with
  | c :: rest =>
    if c == 'e' || c == 'E' then
      let (negative, unsigned) :=
        match rest with
        | '-' :: more => (true, more)
        | '+' :: more => (false, more)
        | _ => (false, rest)
      let digits := unsigned.takeWhile Char.isDigit
      if digits.isEmpty then (none, chars)
      else
        let size : Int := digitsNumber digits
        (some (if negative then -size else size), unsigned.dropWhile Char.isDigit)
    else (none, chars)
  | [] => (none, [])

/-- A number whose sign has been read: a whole number, or a double if it has a fraction or an
exponent. -/
def number (negative : Bool) (chars : List Char) : Except ReadFault (Value × List Char) :=
  let whole :=
    match chars with
    | '0' :: _ => ['0']
    | _ => chars.takeWhile Char.isDigit
  if whole.isEmpty then .error .malformed
  else
    let (decimals, rest) := fraction (chars.drop whole.length)
    let (power, rest) := exponent rest
    if decimals.isEmpty && power.isNone then
      if IntegerLiteral.digitLimit < whole.length then .error .tooManyDigits
      else
        let size : Int := digitsNumber whole
        .ok (.int (if negative then -size else size), rest)
    else
      let digits := digitsNumber (whole ++ decimals)
      .ok (.double (.ofDecimal negative digits (power.getD 0 - decimals.length)), rest)

/-- What follows a name at the start of a text. -/
def afterName? (name : String) (chars : List Char) : Option (List Char) :=
  if name.toList.isPrefixOf chars then some (chars.drop name.length) else none

def named : List (String × Value) :=
  [("null", .null), ("true", .bool true), ("false", .bool false), ("NaN", .double .nan),
    ("Infinity", .double (.infinite false)), ("-Infinity", .double (.infinite true))]

def namedValue? (chars : List Char) : Option (Value × List Char) :=
  named.findSome? fun (name, v) => (afterName? name chars).map fun rest => (v, rest)

mutual

/-- A value at the start of a text, blanks before it already skipped. -/
def value : Nat → List Char → Except ReadFault (Value × List Char)
  | 0, _ => .error .malformed
  | fuel + 1, chars =>
    match chars with
    | '"' :: rest => do
      let (body, rest) ← stringBody (rest.length + 1) rest
      return (.text (String.ofList body), rest)
    | '[' :: rest =>
      match skipSpace rest with
      | ']' :: rest => .ok (.list [], rest)
      | rest => do
        let (elements, rest) ← items fuel rest
        return (.list elements, rest)
    | '\x7b' :: rest =>
      match skipSpace rest with
      | '\x7d' :: rest => .ok (.record [], rest)
      | rest => do
        let (entries, rest) ← fields fuel [] rest
        return (.record entries, rest)
    | _ =>
      match namedValue? chars with
      | some found => .ok found
      | none =>
        match chars with
        | '-' :: rest => number true rest
        | _ => number false chars

/-- The elements of a list that is not empty, and what follows its bracket. -/
def items : Nat → List Char → Except ReadFault (List Value × List Char)
  | 0, _ => .error .malformed
  | fuel + 1, chars => do
    let (first, rest) ← value fuel chars
    match skipSpace rest with
    | ',' :: rest =>
      let (others, rest) ← items fuel (skipSpace rest)
      return (first :: others, rest)
    | ']' :: rest => return ([first], rest)
    | _ => .error .malformed

/-- The fields of a record that is not empty, put after those already read. -/
def fields : Nat → List (String × Value) → List Char →
    Except ReadFault (List (String × Value) × List Char)
  | 0, _, _ => .error .malformed
  | fuel + 1, read, chars => do
    match chars with
    | '"' :: rest =>
      let (key, rest) ← stringBody (rest.length + 1) rest
      match skipSpace rest with
      | ':' :: rest =>
        let (item, rest) ← value fuel (skipSpace rest)
        let read := putField read (String.ofList key) item
        match skipSpace rest with
        | ',' :: rest => fields fuel read (skipSpace rest)
        | '\x7d' :: rest => return (read, rest)
        | _ => .error .malformed
      | _ => .error .malformed
    | _ => .error .malformed

end

end Reader

def read (source : String) : Except ReadFault Value := do
  let chars := source.toList
  let (result, rest) ← Reader.value (chars.length + 1) (Reader.skipSpace chars)
  if (Reader.skipSpace rest).isEmpty then return result else .error .malformed

end ScriptBridge.Value
