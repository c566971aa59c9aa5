import ScriptBridge.Artifact.Enumeration
import ScriptBridge.Artifact.ScriptType
import ScriptBridge.Layout

/-!
The declaration file: for each namespace a block of its enumerations and interfaces, in the order they
were found in, and then of its methods.
-/

namespace ScriptBridge

structure PropertyDeclaration where
  name : String
  isOptional : Bool
  type : ScriptType
deriving Repr

structure InterfaceDeclaration where
  name : String
  parameters : List String
  bases : List ScriptType
  properties : List PropertyDeclaration
deriving Repr

inductive TypeDeclaration
  | enumeration (name : String) (members : List EnumMember)
  | interface (declaration : InterfaceDeclaration)
deriving Repr

/-- A declared method. An event has no result. -/
structure MethodDeclaration where
  kind : MethodKind
  name : String
  parameters : List (String × ScriptType)
  result : Option ScriptType
deriving Repr

structure NamespaceDeclaration where
  path : List String
  types : List TypeDeclaration
  methods : List MethodDeclaration
deriving Repr

/-! ### From a surface -/

namespace PropertyDeclaration

/-- A nullable member becomes an optional property of the type inside. -/
def ofMember (surface : Surface) (handlers : TypeHandlers) (space : String) (member : Member) :
    Except EmitFault PropertyDeclaration :=
  match member.type with
  | .nullable inner => do
    return { name := member.scriptName.display, isOptional := true,
             type := ← ScriptType.ofRef surface handlers space .member inner }
  | ref => do
    return { name := member.scriptName.display, isOptional := false,
             type := ← ScriptType.ofRef surface handlers space .member ref }

end PropertyDeclaration

namespace TypeDeclaration

def ofType (surface : Surface) (handlers : TypeHandlers) (type : DeclaredType) :
    Except EmitFault TypeDeclaration :=
  match type.shape with
  | .enumeration values => do
    return .enumeration type.identity.name.display (← EnumMember.ofValues values)
  | .object parameters members bases => do
    Value.requireTexts parameters
    let baseTypes ← bases.mapM (ScriptType.ofRef surface handlers type.scriptSpace .nested)
    ScriptType.requireNames surface type.scriptSpace bases
    let properties ← members.mapM (PropertyDeclaration.ofMember surface handlers type.scriptSpace)
    return .interface
      { name := type.identity.name.display, parameters := parameters.map (·.display),
        bases := baseTypes, properties }

end TypeDeclaration

namespace MethodDeclaration

def ofMethod (surface : Surface) (handlers : TypeHandlers) (method : Method) :
    Except EmitFault MethodDeclaration := do
  let parameters ← method.arguments.mapM fun argument => do
    let type ← ScriptType.ofRef surface handlers method.scriptSpace .argument argument.type
    return (argument.name.display, type)
  let result ←
    match method.kind with
    | .event => pure none
    | _ => some <$> ScriptType.ofRef surface handlers method.scriptSpace .result method.returns
  return { kind := method.kind, name := method.scriptName, parameters, result }

end MethodDeclaration

namespace NamespaceDeclaration

def ofNamespace (surface : Surface) (handlers : TypeHandlers) (space : String) :
    Except EmitFault NamespaceDeclaration := do
  let types ← (surface.typesIn space).mapM (TypeDeclaration.ofType surface handlers)
  let methods ← (surface.methodsIn space).mapM (MethodDeclaration.ofMethod surface handlers)
  return { path := Namespace.segments space, types, methods }

/-- The declarations of a surface. Namespaces without types and methods are left out. -/
def ofSurface (surface : Surface) (handlers : TypeHandlers) :
    Except EmitFault (List NamespaceDeclaration) :=
  (surface.namespaces.filter fun space =>
    !((surface.typesIn space).isEmpty && (surface.methodsIn space).isEmpty)).mapM
      (ofNamespace surface handlers)

end NamespaceDeclaration

/-! ### As text -/

def PropertyDeclaration.text (property : PropertyDeclaration) : String :=
  property.name ++ (if property.isOptional then "?: " else ": ") ++ property.type.text ++ ";"

namespace InterfaceDeclaration

def header (declaration : InterfaceDeclaration) : String :=
  "export interface " ++ declaration.name ++
    (if declaration.parameters.isEmpty then ""
      else "<" ++ String.intercalate ", " declaration.parameters ++ ">") ++
    (if declaration.bases.isEmpty then ""
      else " extends " ++ String.intercalate ", " (declaration.bases.map (·.text))) ++ " \x7b"

end InterfaceDeclaration

def TypeDeclaration.layout : TypeDeclaration → Layout
  | .enumeration name members =>
    .block ("export enum " ++ name ++ " \x7b")
      ((Writer.separate "," (members.map (·.text))).map .line) "\x7d"
  | .interface declaration =>
    .block declaration.header (declaration.properties.map fun property => .line property.text) "\x7d"

namespace MethodDeclaration

def parameterText (declaration : MethodDeclaration) : String :=
  String.intercalate ", " (declaration.parameters.map fun (name, type) => name ++ ": " ++ type.text)

def text (declaration : MethodDeclaration) : String :=
  let parameters := declaration.parameterText
  let result := (declaration.result.map (·.text)).getD ""
  match declaration.kind with
  | .event => "export const " ++ declaration.name ++ ": Event<[" ++ parameters ++ "]>;"
  | .function => "export let " ++ declaration.name ++ ": (" ++ parameters ++ ") => " ++ result ++ ";"
  | .invokable =>
    "export function " ++ declaration.name ++ "(" ++ parameters ++ "): " ++ result ++ ";"

end MethodDeclaration

namespace NamespaceDeclaration

def inNamespaces (body : List Layout) : List String → List Layout
  | [] => body
  | segment :: rest =>
    [.block ("export namespace " ++ segment ++ " \x7b") (inNamespaces body rest) "\x7d"]

def layout (declaration : NamespaceDeclaration) : List Layout :=
  inNamespaces
    (declaration.types.map (·.layout) ++ declaration.methods.map fun method => .line method.text)
    declaration.path

def fileHeader : String := "import type \x7b Event \x7d from \"./event\";"

/-- The declaration file. A blank line stands before each namespace. -/
def fileText (declarations : List NamespaceDeclaration) : String :=
  Layout.text (.line fileHeader ::
    declarations.flatMap fun declaration => .line "" :: declaration.layout)

end NamespaceDeclaration

end ScriptBridge
