import ScriptBridge.Artifact.Enumeration

/-!
Script-side types of managed ones.
-/

namespace ScriptBridge

inductive Position
  | argument
  | result
  | member
  | nested
deriving Repr, DecidableEq

def Position.text : Position → String
  | .argument => "argument"
  | .result => "return"
  | .member => "member"
  | .nested => "nested"

/-- What a type handler is told: where the reference stands, the namespace its text is written into, and
the managed name of the type. -/
structure HandlerContext where
  position : Position
  space : String
  managed : String
deriving Repr, DecidableEq

/-- Gives the script-side type of an unknown managed type. -/
abbrev TypeHandler := HandlerContext → Except EmitFault String

abbrev TypeHandlers := List (String × TypeHandler)

/-- The handlers with one more, which takes the place of an earlier one for the same type. -/
def TypeHandlers.register (handlers : TypeHandlers) (managed : String) (handler : TypeHandler) :
    TypeHandlers :=
  if handlers.any (·.1 == managed) then
    handlers.map fun entry => if entry.1 == managed then (managed, handler) else entry
  else handlers ++ [(managed, handler)]

inductive ScriptType
  | plain (text : String)
  | parameter (name : String)
  /-- A declared type, qualified by the namespace it stands in where that is another one. -/
  | declared (qualifier : Option String) (name : String)
  | instance (qualifier : Option String) (name : String) (args : List ScriptType)
  | array (element : ScriptType)
  | map (key value : ScriptType)
  | promise (result : ScriptType)
  /-- A value or one that stands for its absence. -/
  | union (inner : ScriptType) (absent : String)
  | custom (text : String)
deriving Repr

namespace ScriptType

def nameText (qualifier : Option String) (name : String) : String :=
  match qualifier with
  | some space => space ++ "." ++ name
  | none => name

mutual

def text : ScriptType → String
  | .plain text => text
  | .parameter name => name
  | .declared qualifier name => nameText qualifier name
  | .instance qualifier name args =>
    nameText qualifier name ++ "<" ++ String.intercalate ", " (texts args) ++ ">"
  | .array element => "Array<" ++ element.text ++ ">"
  | .map key value => "Map<" ++ key.text ++ ", " ++ value.text ++ ">"
  | .promise result => "Promise<" ++ result.text ++ ">"
  | .union inner absent => inner.text ++ " | " ++ absent
  | .custom text => text

def texts : List ScriptType → List String
  | [] => []
  | type :: rest => type.text :: texts rest

end

def spaceOf (surface : Surface) (identity : TypeIdentity) : String :=
  match surface.findType? identity with
  | some type => type.scriptSpace
  | none => if identity.space.isTruthy then identity.space.display else Namespace.global

/-- The qualifier of a declared type in a namespace: none in its own. -/
def qualifier (surface : Surface) (identity : TypeIdentity) (space : String) : Option String :=
  let own := spaceOf surface identity
  if own == space then none else some own

/-- The value that stands for an absent one. -/
def absentAt : Position → String
  | .argument => "undefined"
  | _ => "null"

/-- What the type of a reference is when it is joined with others: a name alone is the value it is. -/
def joinedAs (surface : Surface) (space : String) : TypeRef → Value
  | .custom identity =>
    if (qualifier surface identity space).isNone then identity.name else .text ""
  | _ => .text ""

/-- Refuses to join types of which one is a name alone that is no text. -/
def requireNames (surface : Surface) (space : String) (refs : List TypeRef) : Except EmitFault Unit :=
  Value.requireTexts (refs.map (joinedAs surface space))

mutual

/-- The script-side type of a reference at a position, written into a namespace. -/
def ofRef (surface : Surface) (handlers : TypeHandlers) (space : String) (position : Position) :
    TypeRef → Except EmitFault ScriptType
  | .primitive bucket _ => .ok (.plain bucket.text)
  | .nullable inner => do
    return .union (← ofRef surface handlers space .nested inner) (absentAt position)
  | .array element _ => do return .array (← ofRef surface handlers space .nested element)
  | .map key value _ => do
    let key ← ofRef surface handlers space .nested key
    let value ← ofRef surface handlers space .nested value
    return .map key value
  | .generic identity args => do
    let types ← ofRefs surface handlers space args
    requireNames surface space args
    return .instance (qualifier surface identity space) identity.name.display types
  | .custom identity => .ok (.declared (qualifier surface identity space) identity.name.display)
  | .task => .ok (.promise (.plain Bucket.void.text))
  | .taskOf inner => do return .promise (← ofRef surface handlers space .nested inner)
  | .parameter name => .ok (.parameter name)
  | .unknown managed _ =>
    match handlers.lookup managed with
    | some handler => (handler { position, space, managed }).map .custom
    | none => .ok (.plain Bucket.any.text)

def ofRefs (surface : Surface) (handlers : TypeHandlers) (space : String) :
    List TypeRef → Except EmitFault (List ScriptType)
  | [] => .ok []
  | ref :: rest => do
    let first ← ofRef surface handlers space .nested ref
    return first :: (← ofRefs surface handlers space rest)

end

end ScriptType

end ScriptBridge
