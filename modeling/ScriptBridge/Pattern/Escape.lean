import ScriptBridge.Pattern.CharSet
import ScriptBridge.Pattern.Token
import ScriptBridge.Text.CharName

/-!
Reading the escapes and the sets of patterns.
-/

namespace ScriptBridge

namespace Pattern

inductive Fault
  | malformed
  | repetitionTooLarge
  | tooManyDigits
  /-- Switches that exclude each other are set for the whole pattern. -/
  | conflictingSwitches
deriving Repr, DecidableEq

namespace Reader

def malformed {α : Type} : Except Fault α := .error .malformed

def isHexDigit (c : Char) : Bool := c.isDigit || 'a' ≤ c && c ≤ 'f' || 'A' ≤ c && c ≤ 'F'

def isOctalDigit (c : Char) : Bool := '0' ≤ c && c ≤ '7'

def digitValue (c : Char) : Nat :=
  if c.isDigit then c.toNat - '0'.toNat
  else if 'a' ≤ c then c.toNat - 'a'.toNat + 10
  else c.toNat - 'A'.toNat + 10

def numberIn (base : Nat) (digits : List Char) : Nat :=
  digits.foldl (fun n c => base * n + digitValue c) 0

/-! ### Escapes

The functions take what follows a backslash: a character and the tokens after it. -/

/-- The code point of an escape of a fixed number of hexadecimal digits. -/
def hexEscape (width : Nat) (tokens : List Token) : Except Fault (Nat × List Token) :=
  let (digits, rest) := Token.takeChars isHexDigit width tokens
  let code := numberIn 16 digits
  if digits.length = width && code < 0x110000 then .ok (code, rest) else malformed

/-- The code point of an escape of up to three octal digits. -/
def octalEscape (c : Char) (tokens : List Token) : Except Fault (Nat × List Token) :=
  let (more, rest) := Token.takeChars isOctalDigit 2 tokens
  let code := numberIn 8 (c :: more)
  if code ≤ 0o377 then .ok (code, rest) else malformed

/-- The code point of an escape with a character's name between braces. -/
def nameEscape : List Token → Except Fault (Nat × List Token)
  | .char '\x7b' :: rest =>
    match Token.upTo? '\x7d' rest with
    | some (name, rest) =>
      match Text.codeOfName? (String.ofList name) with
      | some code => .ok (code, rest)
      | none => malformed
    | none => malformed
  | _ => malformed

/-- The escapes that stand for one character anywhere. -/
def plainEscape? : Char → Option Char
  | 'a' => some '\x07'
  | 'f' => some '\x0c'
  | 'n' => some '\n'
  | 'r' => some '\r'
  | 't' => some '\t'
  | 'v' => some '\x0b'
  | _ => none

/-- The escapes that stand for a class: small letters, and capitals for what is not of the class. -/
def classEscape? : Char → Option CharSet.Item
  | 'd' => some (.ofClass false .digit)
  | 'D' => some (.ofClass true .digit)
  | 's' => some (.ofClass false .blank)
  | 'S' => some (.ofClass true .blank)
  | 'w' => some (.ofClass false .word)
  | 'W' => some (.ofClass true .word)
  | _ => none

/-- Escapes of a code point that are written alike inside and outside sets. -/
def commonEscape (c : Char) (tokens : List Token) : Except Fault (Nat × List Token) :=
  match plainEscape? c with
  | some found => .ok (found.toNat, tokens)
  | none =>
    match c with
    | 'x' => hexEscape 2 tokens
    | 'u' => hexEscape 4 tokens
    | 'U' => hexEscape 8 tokens
    | 'N' => nameEscape tokens
    | _ => if c.isAlphanum then malformed else .ok (Text.codePoint c, tokens)

/-! ### Sets -/

def setEscape (c : Char) (tokens : List Token) : Except Fault (CharSet.Item × List Token) :=
  match classEscape? c with
  | some item => .ok (item, tokens)
  | none => do
    let (code, rest) ←
      if c == 'b' then .ok (8, tokens)
      else if isOctalDigit c then octalEscape c tokens
      else commonEscape c tokens
    return (.single code, rest)

/-- One code point or class inside a set. -/
def setItem : List Token → Except Fault (CharSet.Item × List Token)
  | .char c :: rest => .ok (.single (Text.codePoint c), rest)
  | .escaped c :: rest => setEscape c rest
  | _ => malformed

/-- The items of a set up to its bracket. A bracket right at the start is an item. -/
def setItems : (fuel : Nat) → List CharSet.Item → List Token →
    Except Fault (List CharSet.Item × List Token)
  | 0, _, _ => malformed
  | fuel + 1, read, tokens =>
    match tokens with
    | .char ']' :: rest =>
      if read.isEmpty then afterItem fuel read (.single ']'.toNat) rest else .ok (read, rest)
    | _ => do
      let (item, rest) ← setItem tokens
      afterItem fuel read item rest
where
  /-- A range, if a hyphen follows that is not the last of the set. -/
  afterItem (fuel : Nat) (read : List CharSet.Item) (item : CharSet.Item) (tokens : List Token) :
      Except Fault (List CharSet.Item × List Token) :=
    match tokens with
    | .char '-' :: .char ']' :: rest => .ok (read ++ [item, .single '-'.toNat], rest)
    | .char '-' :: rest => do
      let (last, rest) ← setItem rest
      match item, last with
      | .single first, .single last =>
        if first ≤ last then setItems fuel (read ++ [.range first last]) rest else malformed
      | _, _ => malformed
    | _ => setItems fuel (read ++ [item]) tokens

/-- A set whose opening bracket has been read. -/
def charSet (tokens : List Token) : Except Fault (CharSet × List Token) := do
  let (negated, body) :=
    match tokens with
    | .char '^' :: rest => (true, rest)
    | _ => (false, tokens)
  let (items, rest) ← setItems (body.length + 1) [] body
  return ({ negated, items := items.eraseDups }, rest)

end Reader

end Pattern

end ScriptBridge
