import ScriptBridge.CommandLine

/-!
The program: reads the modules that are named, runs, and writes what the run has made.
-/

namespace ScriptBridge.Program

/-- The tree with what is found at a path, as far as it can be read. -/
def readInto (tree : FileTree) (path : String) : IO FileTree := do
  try
    let text ← IO.FS.readFile path
    let (_, made) := tree.makeDirectories (FileTree.directoryOf path).toList
    return (made.write path text).toOption.getD tree
  catch
    | .inappropriateType .. => return (tree.makeDirectories path.toList).2
    | _ => return tree

def pathOf (place : Location) : String :=
  match place with
  | "/" :: names => "/" ++ String.intercalate "/" names
  | names => String.intercalate "/" names

/-- Writes the files that differ from those a run began with. -/
def writeBack (before after : FileTree) : IO Unit := do
  for (place, text) in after.files do
    if before.textAt? place != some text then
      let directory := pathOf (FileTree.parent place)
      if !directory.isEmpty then IO.FS.createDirAll directory
      IO.FS.writeFile (pathOf place) text

/-- A number of milliseconds in seconds, with two places. -/
def seconds (milliseconds : Nat) : String :=
  let hundredths := (milliseconds + 5) / 10
  let places := toString (hundredths % 100)
  toString (hundredths / 100) ++ "." ++ (if places.length < 2 then "0" ++ places else places) ++ "s"

def runProgram (options : CommandLine.Options) : IO UInt32 := do
  let started ← IO.monoMsNow
  let tree ← options.modules.foldlM readInto ({} : FileTree)
  match CommandLine.run options tree with
  | .error misuse =>
    IO.eprintln ("Unusable value: " ++ (Error.misused misuse).message)
    return 1
  | .ok run =>
    writeBack tree run.tree
    IO.eprint (run.standardError options.verbose)
    IO.print (run.standardOutput (seconds ((← IO.monoMsNow) - started)))
    return run.exitCode.toUInt32

end ScriptBridge.Program

def main (arguments : List String) : IO UInt32 := do
  match ScriptBridge.CommandLine.Options.ofArguments arguments with
  | .ok options => ScriptBridge.Program.runProgram options
  | .error .help =>
    IO.print ScriptBridge.CommandLine.usage
    return 0
  | .error .misused =>
    IO.eprint ScriptBridge.CommandLine.usage
    return 2
