import ScriptBridge.Number.IntegerLiteral
import ScriptBridge.Value

/-!
Why an artifact cannot be made. The names of a surface are mostly texts, but a descriptor may give something
else, which not every place in generated code takes.
-/

namespace ScriptBridge

inductive EmitFault
  | handlerFailed (message : String)
  /-- A name that is joined with others is no text. -/
  | notJoined (index : Nat) (given : Value)
  /-- A name that a separator has to follow is no text. -/
  | notSeparated (given : Value)
  /-- A name that is indented is no text. -/
  | notIndented (given : Value)
  /-- A name that has to be written as a string literal is no text. -/
  | notQuoted (given : Value)
  /-- A number has more digits than are written. -/
  | numberTooLong
deriving Repr, DecidableEq

def EmitFault.message : EmitFault → String
  | .handlerFailed message => message
  | .notJoined index given =>
    "sequence item " ++ toString index ++ ": expected str instance, " ++ given.kindName ++ " found"
  | .notSeparated (.list _) => "can only concatenate list (not \"str\") to list"
  | .notSeparated given =>
    "unsupported operand type(s) for +: '" ++ given.kindName ++ "' and 'str'"
  | .notIndented given => "can only concatenate str (not \"" ++ given.kindName ++ "\") to str"
  | .notQuoted given => "'" ++ given.kindName ++ "' object has no attribute 'replace'"
  | .numberTooLong =>
    "Exceeds the limit (" ++ toString IntegerLiteral.digitLimit ++ " digits) for integer string " ++
      "conversion; use sys.set_int_max_str_digits() to increase the limit"

namespace Value

def quotable (v : Value) : Except EmitFault String :=
  match v with
  | .text s => .ok s
  | _ => .error (.notQuoted v)

/-- Refuses to join values of which one, from a place on, is no text. -/
def requireTextsFrom (index : Nat) : List Value → Except EmitFault Unit
  | [] => .ok ()
  | v :: rest => if v.isText then requireTextsFrom (index + 1) rest else .error (.notJoined index v)

def requireTexts (values : List Value) : Except EmitFault Unit :=
  requireTextsFrom 0 values

end Value

/-- A number, provided that it has not too many digits to be written. -/
def writtenNumber (n : Int) : Except EmitFault Int :=
  if IntegerLiteral.IsShort n then .ok n else .error .numberTooLong

end ScriptBridge
