import ScriptBridge.Descriptor
import ScriptBridge.Namespace.Segments
import ScriptBridge.TypeRef

/-!
The interop surface of some modules: the methods that cross the boundary, the declared types their
signatures reach, and the script-side namespaces both stand in.
-/

namespace ScriptBridge

/-- A parameter of a method. Its name is a text unless the descriptor gave something else. -/
structure Argument where
  name : Value
  scriptName : Value
  type : TypeRef
deriving Repr, DecidableEq

structure Method where
  kind : MethodKind
  assembly : Value
  owner : Value
  space : String
  scriptSpace : String
  name : String
  scriptName : String
  arguments : List Argument
  returns : TypeRef
deriving Repr, DecidableEq

namespace Method

/-- Whether the value a method returns may be absent; for a task, whether its value may. -/
def returnsNullable (method : Method) : Bool :=
  match method.returns with
  | .taskOf inner => inner.isNullable
  | ref => ref.isNullable

/-- The references in a signature: arguments first. -/
def signature (method : Method) : List TypeRef :=
  method.arguments.map (·.type) ++ [method.returns]

end Method

/-- A member of a type. Its names are texts unless the descriptor gave something else. -/
structure Member where
  name : Value
  scriptName : Value
  type : TypeRef
deriving Repr, DecidableEq

structure EnumValue where
  name : Value
  value : Int
deriving Repr, DecidableEq

inductive TypeShape
  | object (parameters : List Value) (members : List Member) (bases : List TypeRef)
  | enumeration (values : List EnumValue)
deriving Repr, DecidableEq

structure DeclaredType where
  identity : TypeIdentity
  scriptSpace : String
  isValueType : Bool
  shape : TypeShape
deriving Repr, DecidableEq

namespace DeclaredType

def kind (type : DeclaredType) : TypeKind :=
  match type.shape with
  | .object .. => .object
  | .enumeration _ => .enumeration

def parameters (type : DeclaredType) : List Value :=
  match type.shape with
  | .object parameters _ _ => parameters
  | .enumeration _ => []

def members (type : DeclaredType) : List Member :=
  match type.shape with
  | .object _ members _ => members
  | .enumeration _ => []

def bases (type : DeclaredType) : List TypeRef :=
  match type.shape with
  | .object _ _ bases => bases
  | .enumeration _ => []

def values (type : DeclaredType) : List EnumValue :=
  match type.shape with
  | .object .. => []
  | .enumeration values => values

/-- The declared types that the type refers to: those of its bases, then those of its members. -/
def references (type : DeclaredType) : List TypeIdentity :=
  (type.bases ++ type.members.map (·.type)).flatMap TypeRef.identities

end DeclaredType

/-- The interop surface of some modules. -/
structure Surface where
  methods : List Method := []
  /-- In the order they were found in; their identities are distinct. -/
  types : List DeclaredType := []
  /-- In the order they were first seen in; they are distinct. -/
  namespaces : List String := []
  warnings : List String := []
deriving Repr, DecidableEq

namespace Surface

def methodsIn (surface : Surface) (scriptSpace : String) : List Method :=
  surface.methods.filter (·.scriptSpace == scriptSpace)

def typesIn (surface : Surface) (scriptSpace : String) : List DeclaredType :=
  surface.types.filter (·.scriptSpace == scriptSpace)

def findType? (surface : Surface) (identity : TypeIdentity) : Option DeclaredType :=
  surface.types.find? (·.identity == identity)

/-- A surface of declared types alone. A later one takes the place of an earlier one of its
identity. -/
def ofTypes (types : List DeclaredType) : Surface :=
  { types := types.foldl (fun known type =>
      if known.any (·.identity == type.identity) then
        known.map fun earlier => if earlier.identity == type.identity then type else earlier
      else known ++ [type]) [] }

end Surface

end ScriptBridge
