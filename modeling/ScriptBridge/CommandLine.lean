import ScriptBridge.CommandLine.Options
import ScriptBridge.Session

/-!
The command line: loads modules, applies the options, and writes the three artifacts.
-/

namespace ScriptBridge.CommandLine

structure Run where
  exitCode : Nat
  /-- The lines on the standard output; the last tells how long the run took, if it came so far. -/
  output : List String
  isDone : Bool
  log : List LogRecord
  /-- What is said after the log, if the run failed. -/
  complaint : Option String
  tree : FileTree

namespace Run

def standardOutput (run : Run) (elapsed : String) : String :=
  String.join ((run.output ++ if run.isDone then ["Done in " ++ elapsed] else []).map (· ++ "\n"))

/-- The text of the standard error output: the log from a level on, and a complaint. -/
def standardError (run : Run) (verbose : Bool) : String :=
  let records := run.log.filter fun record => verbose || record.level != .debug
  String.join ((records.map LogRecord.line ++ run.complaint.toList).map (· ++ "\n"))

end Run

def usage : String :=
  "usage: [-h] [--entry ENTRY] [--rule PATTERN=REPLACEMENT] [--ignore NAME] [--output-dir DIR] " ++
    "[--declarations PATH] [--bindings PATH] [--serializer PATH] [--verbose] modules [modules ...]\n"

/-- A rule written as a pattern and a replacement with an equals sign between them. -/
def ruleOf? (text : String) : Option NamespaceRule :=
  match splitValue text.toList with
  | (pattern, some replacement) =>
    some { pattern := .text (String.ofList pattern), replacement := .text replacement }
  | (_, none) => none

/-- The path of an artifact: its own option, or a name in the output directory. None if that directory
is needed and has no name. -/
def Options.path? (options : Options) (kind : ArtifactKind) : Option String :=
  let given := match kind with
    | .declarations => options.declarations
    | .bindings => options.bindings
    | .serializer => options.serializer
  let name := match kind with
    | .declarations => "bindings.d.ts"
    | .bindings => "bindings.g.js"
    | .serializer => "SerializerContext.g.cs"
  match given.filter (!·.isEmpty) with
  | some path => some path
  | none => options.outputDirectory.map fun directory => FileTree.join directory name

def Options.paths? (options : Options) : Option (ArtifactKind → String) := do
  let declarations ← options.path? .declarations
  let bindings ← options.path? .bindings
  let serializer ← options.path? .serializer
  return fun
    | .declarations => declarations
    | .bindings => bindings
    | .serializer => serializer

def loadAll (tree : FileTree) : List String → Session → Except Failure Session
  | [], s => .ok s
  | path :: rest, s => do
    let (_, s) ← s.load tree path
    loadAll tree rest s

inductive RuleFault
  | missing
  | malformed (text : String)
deriving Repr, DecidableEq

/-- Adds rules in order, up to one with a fault. -/
def addRules : List (Option String) → Session → Except RuleFault Session
  | [], s => .ok s
  | none :: _, _ => .error .missing
  | some text :: rest, s =>
    match ruleOf? text with
    | some rule => addRules rest (s.addRule rule)
    | none => .error (.malformed text)

def outcomeLine (paths : ArtifactKind → String) (artifacts : Artifacts) (kind : ArtifactKind) : String :=
  match artifacts.fault? kind with
  | none => "Generated: " ++ paths kind
  | some fault => "Failed: " ++ paths kind ++ " (" ++ kind.failureText fault ++ ")"

def failed (message : String) (log : List LogRecord) (tree : FileTree) : Run :=
  { exitCode := 1, output := [], isDone := false, log, complaint := some ("Error: " ++ message), tree }

/-- A run that stops at a failure. Misuse of a value is no failure that a run reports. -/
def stopped (failure : Failure) (log : List LogRecord) (tree : FileTree) : Except Misuse Run :=
  match failure with
  | .error (.misused misuse) => .error misuse
  | .file (.unusable _) => .error .unusablePath
  | .file (.unencodablePath _) | .file (.unencodableText _) => .error .notEncodable
  | failure => .ok (failed failure.message log tree)

/-- Runs a session whose modules and rules have been given. -/
def runSession (options : Options) (s : Session) (tree : FileTree) : Except Misuse Run :=
  match options.ignores.mapM id, options.paths? with
  | some ignores, some paths =>
    let reply := (s.ignore ignores).write tree paths
    match reply.result with
    | (.error failure, tree) => stopped failure reply.log tree
    | (.ok artifacts, tree) =>
      .ok { exitCode := if artifacts.isComplete then 0 else 1
            output := ArtifactKind.all.map (outcomeLine paths artifacts)
            isDone := true, log := reply.log, complaint := none, tree }
  | _, _ => .error .valueMissing

def run (options : Options) (tree : FileTree) : Except Misuse Run :=
  match loadAll tree options.modules { entryName := options.entry } with
  | .error failure => stopped failure [] tree
  | .ok loaded =>
    match addRules options.rules loaded with
    | .error .missing => .error .ruleMissing
    | .error (.malformed text) =>
      .ok (failed ("invalid rule \"" ++ text ++ "\", expected PATTERN=REPLACEMENT") [] tree)
    | .ok ruled => runSession options ruled tree

end ScriptBridge.CommandLine
