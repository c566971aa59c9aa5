import ScriptBridge.Artifact.EmitFault
import ScriptBridge.Naming
import ScriptBridge.Surface

/-!
Enumerations in generated code: their declarations, and the objects that lead from values to names and
back.
-/

namespace ScriptBridge

/-- A member of a declared enumeration; the value of one without a number follows its predecessor's. -/
structure EnumMember where
  name : String
  number : Option Int
deriving Repr, DecidableEq

namespace EnumMember

/-- The values that do not follow their predecessors, where the first would be numbered by itself with a
given number. -/
def numberedFrom (next : Int) : List EnumValue → List EnumValue
  | [] => []
  | entry :: rest =>
    if entry.value = next then numberedFrom (entry.value + 1) rest
    else entry :: numberedFrom (entry.value + 1) rest

/-- A member that does not follow its predecessor. -/
def numbered (entry : EnumValue) : Except EmitFault EnumMember := do
  return { name := entry.name.display, number := some (← writtenNumber entry.value) }

/-- The name of a member without a number. One that is not a text is accepted only as an empty name at
the end. -/
def bareName (name : Value) (isLast : Bool) : Except EmitFault String :=
  match name with
  | .text s => .ok s
  | _ =>
    if !isLast then .error (.notSeparated name)
    else if name.isTruthy then .error (.notIndented name)
    else .ok ""

/-- The members for some values, where the next would be numbered by itself with a given number. -/
def ofValuesFrom (next : Int) : List EnumValue → Except EmitFault (List EnumMember)
  | [] => .ok []
  | entry :: rest => do
    let first : EnumMember ←
      if entry.value = next then
        pure { name := ← bareName entry.name rest.isEmpty, number := none }
      else numbered entry
    return first :: (← ofValuesFrom (entry.value + 1) rest)

/-- The members for the values of an enumeration. All numbers are written before the names that stand
alone. -/
def ofValues (values : List EnumValue) : Except EmitFault (List EnumMember) := do
  let _ ← (numberedFrom 0 values).mapM numbered
  ofValuesFrom 0 values

def text (entry : EnumMember) : String :=
  match entry.number with
  | none => entry.name
  | some n => entry.name ++ " = " ++ toString n

end EnumMember

/-- A property of a lookup object. -/
inductive LookupPair
  | nameOf (value : Int) (name : String)
  | valueOf (name : String) (value : Int)
deriving Repr, DecidableEq

namespace LookupPair

/-- The values of an enumeration that occur first, each with its name. -/
def firstNames : List EnumValue → List EnumValue
  | [] => []
  | entry :: rest => entry :: (firstNames rest).filter (·.value != entry.value)

/-- The first name of each value, then the value of each name. -/
def ofValues (values : List EnumValue) : Except EmitFault (List LookupPair) := do
  let names ← (firstNames values).mapM fun entry => do
    let value ← writtenNumber entry.value
    return .nameOf value (← entry.name.quotable)
  let numbers ← values.mapM fun entry => do
    let name ← entry.name.quotable
    return .valueOf name (← writtenNumber entry.value)
  return names ++ numbers

def text : LookupPair → String
  | .nameOf value name =>
    Naming.stringLiteral (toString value) ++ ": " ++ Naming.stringLiteral name
  | .valueOf name value => Naming.stringLiteral name ++ ": " ++ toString value

end LookupPair

/-- The lookup object of an enumeration, as an entry of another object. -/
def lookupText (name : String) (pairs : List LookupPair) : String :=
  name ++ ": \x7b " ++ String.intercalate ", " (pairs.map (·.text)) ++ " \x7d"

end ScriptBridge
