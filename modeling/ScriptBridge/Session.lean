import ScriptBridge.Artifact.Artifacts
import ScriptBridge.Descriptor.Loader
import ScriptBridge.FileTree
import ScriptBridge.Surface.Discovery
import ScriptBridge.TypeRef.Display

/-!
A session: modules and settings are added one by one, and the surface is found when it is asked for. It
is kept until a module, a name to ignore or a rule is added.
-/

namespace ScriptBridge

/-- The name of the part that reports on sessions, in the log. -/
def sessionLogger : String := "interop_gen.generator"

def sessionRecord (level : LogLevel) (message : String) : LogRecord :=
  { level, logger := sessionLogger, message }

/-- Why a session cannot do what it was asked for. -/
inductive Failure
  | file (fault : FileFault)
  | error (e : Error)
deriving Repr, DecidableEq

def Failure.message : Failure → String
  | .file fault => fault.message
  | .error e => e.message

structure Session where
  /-- The assembly whose namespace rules count; that of the first module if it is empty. -/
  entryName : String := ""
  modules : List Descriptor := []
  ignores : List String := []
  rules : List NamespaceRule := []
  handlers : TypeHandlers := []
  /-- The surface, if it has been found since the settings last changed. -/
  surface : Option Surface := none

/-- What an operation of a session comes to: its result, the log of it, and the session after it. -/
structure Session.Reply (α : Type) where
  result : α
  log : List LogRecord
  session : Session

namespace MethodKind

def label : MethodKind → String
  | .invokable => "INVOKABLE"
  | .function => "FUNCTION"
  | .event => "EVENT"

end MethodKind

def Method.display (method : Method) : String :=
  let arguments := method.arguments.map fun argument =>
    argument.name.display ++ ": " ++ argument.type.display
  "[" ++ method.kind.label ++ "] " ++ method.assembly.display ++ "." ++ method.space ++ "." ++
    method.name ++ " (" ++ String.intercalate ", " arguments ++ ") => " ++ method.returns.display

namespace Session

def addModule (s : Session) (module : Descriptor) : Session :=
  { s with modules := s.modules ++ [module], surface := none }

def readModule (tree : FileTree) (path : String) : Except Failure Descriptor :=
  match tree.read path with
  | .error fault => .error (.file fault)
  | .ok text => (Descriptor.ofText text path).mapError .error

def load (s : Session) (tree : FileTree) (path : String) : Except Failure (Descriptor × Session) := do
  let module ← readModule tree path
  return (module, s.addModule module)

def ignore (s : Session) (names : List String) : Session :=
  { s with ignores := s.ignores ++ names, surface := none }

def addRule (s : Session) (rule : NamespaceRule) : Session :=
  { s with rules := s.rules ++ [rule], surface := none }

def setHandler (s : Session) (managed : String) (handler : TypeHandler) : Session :=
  { s with handlers := s.handlers.register managed handler }

/-- The module whose namespace rules count. -/
def entry? (s : Session) : Option Descriptor :=
  match s.modules.find? (·.assembly == .text s.entryName) with
  | some module => some module
  | none => if s.entryName.isEmpty then s.modules.head? else none

/-- What is logged when the entry module is sought: a warning if it is named and not there. -/
def entryLog (s : Session) : List LogRecord :=
  if s.entry?.isNone && !s.entryName.isEmpty then
    [sessionRecord .warning ("Entry module " ++ s.entryName ++
      " not found, namespace rules from descriptors ignored")]
  else []

/-- The namespace rules in the order they are tried: those of the entry module first. -/
def effectiveRules (s : Session) : List NamespaceRule :=
  (s.entry?.map (·.rules)).getD [] ++ s.rules

/-- What is logged when a surface has been found. -/
def report (s : Session) (surface : Surface) : List LogRecord :=
  sessionRecord .info ("Inspected " ++ toString s.modules.length ++ " module(s): " ++
    toString surface.methods.length ++ " method(s), " ++ toString surface.types.length ++
    " type(s), " ++ toString surface.namespaces.length ++ " namespace(s)") ::
  surface.methods.map fun method => sessionRecord .debug ("  " ++ method.display)

/-- Finds the surface of the modules under the settings, whether it is known or not. -/
def find (s : Session) : Except Error Surface × List LogRecord :=
  match Namespace.Resolver.ofRules s.effectiveRules with
  | .error e => (.error e, s.entryLog)
  | .ok resolver =>
    let inspected := ({ resolver, ignores := s.ignores } : Inspector).inspect s.modules
    match inspected.result with
    | .error e => (.error e, s.entryLog ++ inspected.log)
    | .ok surface => (.ok surface, s.entryLog ++ inspected.log ++ s.report surface)

def inspect (s : Session) : Reply (Except Error Surface) :=
  match s.surface with
  | some surface => { result := .ok surface, log := [], session := s }
  | none =>
    match s.find with
    | (.ok surface, log) =>
      { result := .ok surface, log, session := { s with surface := some surface } }
    | (.error e, log) => { result := .error e, log, session := s }

def failureLog (artifacts : Artifacts) : List LogRecord :=
  ArtifactKind.all.filterMap fun kind =>
    (artifacts.fault? kind).map fun fault => sessionRecord .error (kind.failureText fault)

def generate (s : Session) : Reply (Except Error Artifacts) :=
  let inspected := s.inspect
  match inspected.result with
  | .error e => { result := .error e, log := inspected.log, session := inspected.session }
  | .ok surface =>
    let artifacts := Artifacts.ofSurface surface s.handlers
    { result := .ok artifacts, log := inspected.log ++ failureLog artifacts,
      session := inspected.session }

/-- Writes an artifact, its directory made before. What is made before a fault stays. -/
def writeArtifact (tree : FileTree) (path text : String) : Except FileFault Unit × FileTree :=
  let directory := FileTree.directoryOf path
  match (if directory.isEmpty then (.ok (), tree) else tree.makeDirectories directory.toList) with
  | (.error fault, tree) => (.error fault, tree)
  | (.ok (), tree) => tree.writeEncoded path text

/-- Writes the artifacts that have not failed, in order, up to a fault. -/
def writeAll (artifacts : Artifacts) : List (ArtifactKind × String) → FileTree →
    Except FileFault Unit × List LogRecord × FileTree
  | [], tree => (.ok (), [], tree)
  | (kind, path) :: rest, tree =>
    match artifacts.get kind with
    | .error _ => writeAll artifacts rest tree
    | .ok text =>
      match writeArtifact tree path text with
      | (.error fault, tree) => (.error fault, [], tree)
      | (.ok (), tree) =>
        let (result, log, tree) := writeAll artifacts rest tree
        (result, sessionRecord .info ("Wrote " ++ path) :: log, tree)

/-- Makes the artifacts and writes them to some paths. -/
def write (s : Session) (tree : FileTree) (paths : ArtifactKind → String) :
    Reply (Except Failure Artifacts × FileTree) :=
  let generated := s.generate
  match generated.result with
  | .error e =>
    { result := (.error (.error e), tree), log := generated.log, session := generated.session }
  | .ok artifacts =>
    let (result, log, tree) := writeAll artifacts (ArtifactKind.all.map fun k => (k, paths k)) tree
    { result := ((result.map fun _ => artifacts).mapError .file, tree), log := generated.log ++ log,
      session := generated.session }

end Session

end ScriptBridge
