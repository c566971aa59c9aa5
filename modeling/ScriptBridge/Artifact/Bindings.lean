import ScriptBridge.Artifact.Enumeration
import ScriptBridge.Artifact.ScriptType
import ScriptBridge.Layout
import ScriptBridge.Surface.Tree

/-!
The binding file: for each namespace an object of the entries of its methods, of the lookups of its
enumerations, and of the objects of the namespaces inside it.
-/

namespace ScriptBridge

/-- A parameter of an adapter, and whether its value crosses the boundary as serialized text. -/
structure Passed where
  name : String
  isSerialized : Bool
deriving Repr, DecidableEq

/-- What an adapter does with the result of the call it makes. -/
inductive ResultHandling
  | asIs
  | converted
  | awaited
deriving Repr, DecidableEq

/-- A function that hands a call across the boundary. -/
structure Adapter where
  parameters : List Passed
  result : ResultHandling
deriving Repr, DecidableEq

inductive BindingEntry
  /-- Calls a managed method, by its accessor and name. -/
  | invokable (name accessor method : String) (adapter : Adapter)
  /-- Reads the handler that script has assigned. -/
  | handler (name : String)
  /-- Assigns a handler, and with it the adapter that managed code calls. -/
  | assignment (name : String) (adapter : Adapter)
  /-- Reads the adapter, provided that a handler has been assigned. -/
  | serializedHandler (name path : String)
  | event (name : String)
  /-- Broadcasts an event on behalf of managed code. -/
  | broadcast (name path : String) (parameters : List Passed)
  | lookup (name : String) (pairs : List LookupPair)
deriving Repr, DecidableEq

/-- A binding object. The names of its inner objects ascend. -/
inductive BindingObject
  | node (name : String) (entries : List BindingEntry) (inner : List BindingObject)
deriving Repr

/-! ### From a surface -/

def Passed.ofArgument (argument : Argument) : Passed :=
  { name := argument.scriptName.display, isSerialized := argument.type.isSerialized }

namespace Method

/-- The accessor of the managed methods of a class: its namespace with underscores, and the class. -/
def accessor (method : Method) : String :=
  let start := Namespace.accessorStart method.space
  if start.isEmpty then method.owner.display else start ++ "_" ++ method.owner.display

/-- How the result of a call is handled: it is converted if it is serialized, and a task awaited
before. -/
def resultHandling (method : Method) : ResultHandling :=
  if !method.returns.isSerialized then .asIs
  else if method.returns.isAsync then .awaited
  else .converted

def scriptPath (method : Method) : String :=
  method.scriptSpace ++ "." ++ method.scriptName

/-- The entries of a method: one for an invokable, three for a function, two for an event. -/
def bindingEntries (method : Method) : Except EmitFault (List BindingEntry) := do
  Value.requireTexts (method.arguments.map (·.scriptName))
  let parameters := method.arguments.map Passed.ofArgument
  let adapter : Adapter := { parameters, result := method.resultHandling }
  let name := method.scriptName
  return match method.kind with
    | .invokable => [.invokable name method.accessor method.name adapter]
    | .function =>
      [.handler name, .assignment name adapter, .serializedHandler name method.scriptPath]
    | .event => [.event name, .broadcast name method.scriptPath parameters]

end Method

def DeclaredType.bindingEntries (type : DeclaredType) : Except EmitFault (List BindingEntry) :=
  match type.shape with
  | .enumeration values => do
    return [.lookup type.identity.name.display (← LookupPair.ofValues values)]
  | .object .. => .ok []

namespace BindingObject

def name : BindingObject → String
  | .node name _ _ => name

def entries : BindingObject → List BindingEntry
  | .node _ entries _ => entries

def inner : BindingObject → List BindingObject
  | .node _ _ inner => inner

def isEmpty : BindingObject → Bool
  | .node _ entries inner => entries.isEmpty && inner.isEmpty

/-- What became of the objects of some namespaces, each under its name: in the order of the names, the
first failure, or the objects without the empty ones. -/
def arranged (made : List (String × Except EmitFault BindingObject)) :
    Except EmitFault (List BindingObject) := do
  let objects ← (made.mergeSort fun a b =>
    !decide (Text.codePoints b.1 < Text.codePoints a.1)).mapM (·.2)
  return objects.filter (!·.isEmpty)

mutual

def ofNode : NamespaceNode → Except EmitFault BindingObject
  | .node name _ methods types children => do
    let methodEntries ← methods.mapM (·.bindingEntries)
    let typeEntries ← types.mapM (·.bindingEntries)
    return .node name (methodEntries.flatten ++ typeEntries.flatten) (← arranged (ofNodes children))

def ofNodes : List NamespaceNode → List (String × Except EmitFault BindingObject)
  | [] => []
  | space :: rest => (space.name, ofNode space) :: ofNodes rest

end

/-- The objects of the outermost namespaces. There are none where there are no methods. -/
def ofSurface (surface : Surface) : Except EmitFault (List BindingObject) :=
  if surface.methods.isEmpty then .ok []
  else arranged (ofNodes surface.root.children)

end BindingObject

/-! ### As text -/

namespace Adapter

def wrap (function : String) (apply : Bool) (text : String) : String :=
  if apply then function ++ "(" ++ text ++ ")" else text

def parameterText (parameters : List Passed) : String :=
  String.intercalate ", " (parameters.map (·.name))

/-- The arguments of the call, converted by a function where they are serialized. -/
def argumentText (convert : String) (parameters : List Passed) : String :=
  String.intercalate ", " (parameters.map fun p => wrap convert p.isSerialized p.name)

/-- An arrow function around a call, whose result is converted by a function. -/
def text (adapter : Adapter) (convert call : String) : String :=
  let parameters := "(" ++ parameterText adapter.parameters ++ ") => "
  match adapter.result with
  | .asIs => parameters ++ call
  | .converted => parameters ++ convert ++ "(" ++ call ++ ")"
  | .awaited => "async " ++ parameters ++ convert ++ "(await " ++ call ++ ")"

end Adapter

namespace BindingEntry

def text : BindingEntry → String
  | .invokable name accessor method adapter =>
    let call := "getExports()." ++ accessor ++ "." ++ method ++ "(" ++
      Adapter.argumentText "serialize" adapter.parameters ++ ")"
    name ++ ": " ++ adapter.text "deserialize" call
  | .handler name => "get " ++ name ++ "() \x7b return this." ++ name ++ "Handler; \x7d"
  | .assignment name adapter =>
    let call := "this." ++ name ++ "Handler(" ++
      Adapter.argumentText "deserialize" adapter.parameters ++ ")"
    "set " ++ name ++ "(handler) \x7b this." ++ name ++ "Handler = handler; this." ++ name ++
      "SerializedHandler = " ++ adapter.text "serialize" call ++ "; \x7d"
  | .serializedHandler name path =>
    "get " ++ name ++ "Serialized() \x7b if (typeof this." ++ name ++
      "Handler !== \"function\") throw Error(\"Failed to invoke '" ++ path ++
      "' from C#. Make sure to assign function in JavaScript.\"); return this." ++ name ++
      "SerializedHandler; \x7d"
  | .event name => name ++ ": new Event()"
  | .broadcast name path parameters =>
    name ++ "Serialized: (" ++ Adapter.parameterText parameters ++ ") => " ++ path ++ ".broadcast(" ++
      Adapter.argumentText "deserialize" parameters ++ ")"
  | .lookup name pairs => lookupText name pairs

end BindingEntry

namespace BindingObject

/-- Lines, each but the last followed by a comma; the last by one too if more follows. -/
def entryLines (entries : List BindingEntry) (more : Bool) : List Layout :=
  match entries with
  | [] => []
  | [last] => [.line (last.text ++ if more then "," else "")]
  | entry :: rest => .line (entry.text ++ ",") :: entryLines rest more

mutual

def body : BindingObject → List Layout
  | .node _ entries inner => entryLines entries (!inner.isEmpty) ++ blocks inner

/-- The blocks of some inner objects, each but the last followed by a comma. -/
def blocks : List BindingObject → List Layout
  | [] => []
  | object :: rest =>
    .block (object.name ++ ": \x7b") object.body (if rest.isEmpty then "\x7d" else "\x7d,") ::
      blocks rest

end

def fileHeader : List String :=
  ["import \x7b exports \x7d from \"./exports\";",
    "import \x7b Event \x7d from \"./event\";",
    "function getExports () \x7b if (exports == null) throw Error(\"Boot the runtime before invoking C# APIs.\"); return exports; \x7d",
    "function serialize(obj) \x7b return JSON.stringify(obj); \x7d",
    "function deserialize(json) \x7b const result = JSON.parse(json); if (result === null) return undefined; return result; \x7d",
    "export \x7b Event, serialize, deserialize \x7d;",
    ""]

/-- The binding file; empty where there are no objects. -/
def fileText (objects : List BindingObject) : String :=
  if objects.isEmpty then ""
  else
    Layout.text (fileHeader.map .line ++ objects.map fun object =>
      .block ("export const " ++ object.name ++ " = \x7b") object.body "\x7d;")

end BindingObject

end ScriptBridge
