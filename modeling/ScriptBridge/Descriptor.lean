import ScriptBridge.Text.Split
import ScriptBridge.TypeIdentity
import ScriptBridge.Value

/-!
Descriptors of compiled modules: the interop methods a module declares, its types, and its namespace
rules. Names and type expressions are only known to be there, so they are kept as values.
-/

namespace ScriptBridge

/-- Who implements a method and who calls it. -/
inductive MethodKind
  /-- Implemented by managed code, called from script. -/
  | invokable
  /-- Implemented by script, called from managed code. -/
  | function
  /-- Broadcast by managed code to script. -/
  | event
deriving Repr, DecidableEq

namespace MethodKind

def all : List MethodKind := [.invokable, .function, .event]

def text : MethodKind → String
  | .invokable => "invokable"
  | .function => "function"
  | .event => "event"

def ofText? (text : String) : Option MethodKind :=
  all.find? (·.text == text)

/-- Whether the method is something script calls. Target names are unique among the methods of a
namespace on the same side. -/
def isExport : MethodKind → Bool
  | .invokable => true
  | _ => false

end MethodKind

inductive TypeKind
  | object
  | enumeration
deriving Repr, DecidableEq

namespace TypeKind

def text : TypeKind → String
  | .object => "object"
  | .enumeration => "enum"

def ofText? (text : String) : Option TypeKind :=
  [.object, .enumeration].find? (·.text == text)

end TypeKind

structure ParameterDecl where
  name : Value
  type : Value
deriving Repr, DecidableEq

/-- A declared method. Only some kinds make it an interop method. -/
structure MethodDecl where
  kind : String
  space : Value
  owner : Value
  name : Value
  parameters : List ParameterDecl
  returns : Value
deriving Repr, DecidableEq

structure MemberDecl where
  name : Value
  type : Value
  isStatic : Bool
  isComputed : Bool
deriving Repr, DecidableEq

/-- A member that every instance holds a value of. -/
def MemberDecl.isReadable (member : MemberDecl) : Bool :=
  !member.isStatic && !member.isComputed

/-- A constant of an enumeration; one without a value follows its predecessor. -/
structure ItemDecl where
  name : Value
  value : Option Int
deriving Repr, DecidableEq

structure TypeDecl where
  kind : TypeKind
  space : Value
  name : Value
  parameters : List Value
  members : List MemberDecl
  items : List ItemDecl
  bases : List Value
  isValueType : Bool
deriving Repr, DecidableEq

namespace TypeDecl

def arity (decl : TypeDecl) : Nat := decl.parameters.length

def identity (decl : TypeDecl) : TypeIdentity :=
  { space := decl.space, name := decl.name, arity := decl.arity }

/-- The name with the namespace before it; a name in no namespace is kept as it is. -/
def fullName (decl : TypeDecl) : Value :=
  if decl.space.isTruthy then .text decl.identity.fullName else decl.name

/-- What the declaration is found by. A name alone serves as the key as it is. -/
def key (decl : TypeDecl) : Value :=
  if decl.space.isTruthy || decl.arity != 0 then .text decl.identity.key else decl.name

def parameterNames (decl : TypeDecl) : List String :=
  decl.parameters.filterMap Value.asText?

end TypeDecl

namespace MethodDecl

/-- Namespace, owner and name joined by dots, as far as they are there. None if one of them is no
text. -/
def fullName? (decl : MethodDecl) : Option String :=
  (([decl.space, decl.owner, decl.name].filter Value.isTruthy).mapM Value.asText?).map Text.dotted

end MethodDecl

/-- A namespace rule: what a namespace has to match, and what replaces the matches. -/
structure NamespaceRule where
  pattern : Value
  replacement : Value
deriving Repr, DecidableEq

structure Descriptor where
  assembly : Value
  /-- Their keys are distinct. -/
  types : List TypeDecl := []
  methods : List MethodDecl := []
  rules : List NamespaceRule := []
deriving Repr, DecidableEq

namespace Descriptor

def findType? (types : List TypeDecl) (key : Value) : Option TypeDecl :=
  types.find? (·.key.isSameKey key)

/-- The types with one more: under a key already there it takes the place of the earlier one. -/
def putType (types : List TypeDecl) (decl : TypeDecl) : List TypeDecl :=
  if (findType? types decl.key).isSome then
    types.map fun earlier => if earlier.key.isSameKey decl.key then decl else earlier
  else types ++ [decl]

/-- The methods of an interop kind, with that kind. -/
def interopMethods (module : Descriptor) : List (MethodKind × MethodDecl) :=
  module.methods.filterMap fun decl => (MethodKind.ofText? decl.kind).map (·, decl)

end Descriptor

end ScriptBridge
