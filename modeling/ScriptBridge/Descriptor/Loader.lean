import ScriptBridge.Descriptor
import ScriptBridge.Error
import ScriptBridge.Text.Case
import ScriptBridge.Value.Reader

/-!
Descriptors from documents. Types are read before methods, and methods before rules; the first defect
is reported.
-/

namespace ScriptBridge

namespace Value

/-- What a loop over a value goes through: elements, characters or keys. -/
def elements : Value → Except Misuse (List Value)
  | .list items => .ok items
  | .text s => .ok (s.toList.map fun c => .text (String.singleton c))
  | .record fields => .ok (fields.map fun (key, _) => .text key)
  | _ => .error .notIterable

def occursIn (part : List Char) : List Char → Bool
  | [] => part.isEmpty
  | c :: rest => part.isPrefixOf (c :: rest) || occursIn part rest

/-- Whether a key is found in a value: as a field, an element or a part of a text. -/
def holds (key : String) : Value → Except Misuse Bool
  | .record fields => .ok (fields.any (·.1 == key))
  | .list items => .ok (items.any fun | .text s => s == key | _ => false)
  | .text s => .ok (occursIn key.toList s.toList)
  | _ => .error .notSearchable

def field? (key : String) : Value → Except Misuse (Option Value)
  | .record fields => .ok ((fields.find? (·.1 == key)).map (·.2))
  | _ => .error .noFields

/-- A field that has been found to be there. -/
def required (key : String) : Value → Except Misuse Value
  | .record fields => .ok (((fields.find? (·.1 == key)).map (·.2)).getD .null)
  | _ => .error .notSubscriptable

def orElse (v absent : Value) : Value :=
  if v.isTruthy then v else absent

end Value

namespace Descriptor

/-- A use of a value, among the errors of loading. -/
def use {α : Type} : Except Misuse α → Except Error α
  | .ok a => .ok a
  | .error misuse => .error (.misused misuse)

def reject {α : Type} (defect : Defect) : Except Error α :=
  .error (.rejected [] defect)

/-- The elements of a list that a record may hold. -/
def listField (key : String) (decl : Value) : Except Error (List Value) := do
  match ← use (decl.field? key) with
  | some v => use v.elements
  | none => return []

def flagField (key : String) (decl : Value) : Except Error Bool := do
  return ((← use (decl.field? key)).getD (.bool false)).isTruthy

/-- Refuses a value that lacks one of some names. -/
def require (keys : List String) (decl : Value) (defect : Defect) : Except Error Unit :=
  match keys with
  | [] => .ok ()
  | key :: rest => do
    if ← use (decl.holds key) then require rest decl defect else reject defect

def parameterOf (method : String) (decl : Value) : Except Error ParameterDecl := do
  require ["name", "type"] decl (.malformedArgument method)
  return { name := ← use (decl.required "name"), type := ← use (decl.required "type") }

def methodOf (decl : Value) : Except Error MethodDecl := do
  require ["name"] decl .unnamedMethod
  let kind := ((← use (decl.field? "kind")).getD (.text "")).display
  let arguments ← listField "args" decl
  let name ← use (decl.required "name")
  let parameters ← arguments.mapM (parameterOf name.display)
  let space := ((← use (decl.field? "namespace")).getD .null).orElse (.text "")
  let owner := (← use (decl.field? "owner")).getD (.text "")
  let returns := ((← use (decl.field? "returns")).getD .null).orElse (.text "void")
  return { kind := Text.lowerText kind, space, owner, name, parameters, returns }

def memberOf (type : String) (decl : Value) : Except Error MemberDecl := do
  require ["name", "type"] decl (.malformedMember type)
  let name ← use (decl.required "name")
  let exprText ← use (decl.required "type")
  return { name, type := exprText, isStatic := ← flagField "static" decl,
           isComputed := ← flagField "computed" decl }

/-- A number as the value of an item: fractions are cut off. None if it is not one. -/
def itemValue? : Value → Except Misuse (Option Int)
  | .bool b => .ok (some (if b then 1 else 0))
  | .int n => .ok (some n)
  | .double (.finite negative mantissa exponent) =>
    .ok (some (Binary64.truncate negative mantissa exponent))
  | .double (.infinite _) => .error .infiniteNumber
  | .text s => .ok (IntegerLiteral.value? s)
  | _ => .ok none

def itemOf (type : String) (decl : Value) : Except Error ItemDecl := do
  require ["name"] decl (.malformedItem type)
  match (← use (decl.field? "value")).getD .null with
  | .null => return { name := ← use (decl.required "name"), value := none }
  | given =>
    let name ← use (decl.required "name")
    match ← use (itemValue? given) with
    | some n => return { name, value := some n }
    | none => reject (.invalidItemValue type name.display given.inspect)

def kindOf (type : String) (given : Value) : Except Error TypeKind :=
  match given.asText?.bind TypeKind.ofText? with
  | some kind => .ok kind
  | none => reject (.unknownKind given.display type)

def typeOf (decl : Value) : Except Error TypeDecl := do
  require ["name"] decl .unnamedType
  let givenKind := (← use (decl.field? "kind")).getD (.text "object")
  let name ← use (decl.required "name")
  let kind ← kindOf name.display givenKind
  let members ← (← listField "members" decl).mapM (memberOf name.display)
  let items ← (← listField "items" decl).mapM (itemOf name.display)
  let space := ((← use (decl.field? "namespace")).getD .null).orElse (.text "")
  let parameters ← listField "type_params" decl
  let bases ← listField "extends" decl
  let isValueType := ((← use (decl.field? "value_type")).getD (.bool (kind == .enumeration))).isTruthy
  return { kind, space, name, parameters, members, items, bases, isValueType }

/-- The types of a module. A later declaration of a key takes the place of an earlier one. -/
def typesOf (decls : List Value) : Except Error (List TypeDecl) :=
  decls.foldlM (fun types given => do
    let decl ← typeOf given
    if decl.key.isHashable then return putType types decl else use (.error .notHashable)) []

def ruleOf (decl : Value) : Except Error NamespaceRule := do
  require ["pattern"] decl .ruleWithoutPattern
  return { pattern := ← use (decl.required "pattern"),
           replacement := (← use (decl.field? "replacement")).getD (.text "") }

def contentOf (assembly document : Value) : Except Error Descriptor := do
  let types ← typesOf (← listField "types" document)
  let methods ← (← listField "methods" document).mapM methodOf
  let rules ← (← listField "namespace_rules" document).mapM ruleOf
  return { assembly, types, methods, rules }

/-- The descriptor a document holds. The name of its source stands in for a missing assembly. -/
def ofValue (document : Value) (source : String) : Except Error Descriptor :=
  match document with
  | .record _ => do
    let given := (← use (document.field? "assembly")).getD .null
    let assembly := given.orElse (.text source)
    if assembly.isTruthy then
      (contentOf assembly document).mapError (Error.within assembly.display)
    else reject .noAssembly
  | _ => .error (.rejected (if source.isEmpty then [] else [source]) .notAnObject)

def ofText (text : String) (source : String) : Except Error Descriptor :=
  match Value.read text with
  | .ok document => ofValue document source
  | .error .malformed => .error (.rejected (if source.isEmpty then [] else [source]) .invalidJson)
  | .error .tooManyDigits => .error (.misused .tooManyDigits)

end Descriptor

end ScriptBridge
