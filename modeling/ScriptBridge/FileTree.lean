import ScriptBridge.Text.Blank
import ScriptBridge.Text.Quoted
import ScriptBridge.Text.Split
import ScriptBridge.Text.Unpaired

/-!
Files and directories by path, as seen from a working directory.
-/

namespace ScriptBridge

/-- Why a file or a directory cannot be used, and the path that says so. -/
inductive FileFault
  | notFound (path : String)
  | occupied (path : String)
  | notDirectory (path : String)
  | isDirectory (path : String)
  | nameTooLong (path : String)
  | unusable (path : String)
  | unencodablePath (path : String)
  /-- The text to be written to a path cannot be encoded. -/
  | unencodableText (path : String)
deriving Repr, DecidableEq

namespace FileFault

def message : FileFault → String
  | .notFound path => "[Errno 2] No such file or directory: " ++ Text.quoted path
  | .occupied path => "[Errno 17] File exists: " ++ Text.quoted path
  | .notDirectory path => "[Errno 20] Not a directory: " ++ Text.quoted path
  | .isDirectory path => "[Errno 21] Is a directory: " ++ Text.quoted path
  | .nameTooLong path => "[Errno 36] File name too long: " ++ Text.quoted path
  | .unusable path => "null character in path: " ++ Text.quoted path
  | .unencodablePath path => "unpaired surrogate in path: " ++ Text.quoted path
  | .unencodableText path => "unpaired surrogate in text for path: " ++ Text.quoted path

end FileFault

/-- A place in a file tree: the names from the working directory down. Leading `..` lead out of it, and
a leading `/` stands for the root. -/
abbrev Location := List String

/-- Files with their texts, and directories besides the working directory and those around it. -/
structure FileTree where
  files : List (Location × String) := []
  directories : List Location := []
deriving Repr, DecidableEq

namespace FileTree

def pathParts (path : String) : List String :=
  (Text.splitAtChar '/' path.toList).map String.ofList

def origin (path : String) : Location :=
  if path.startsWith "/" then ["/"] else []

def parent (place : Location) : Location :=
  if place == ["/"] then place
  else if place.all (· == "..") then place ++ [".."]
  else place.dropLast

def isDirectory (tree : FileTree) (place : Location) : Bool :=
  place == ["/"] || place.all (· == "..") || tree.directories.contains place

def textAt? (tree : FileTree) (place : Location) : Option String :=
  tree.files.lookup place

def nameLimit : Nat := 255

def pathLimit : Nat := 4095

def checkPath (path : String) : Except FileFault Unit :=
  if !Text.isPathText path then .error (.unencodablePath path)
  else if path.toList.contains '\x00' then .error (.unusable path)
  else if path.isEmpty then .error (.notFound path)
  else if pathLimit < Text.pathSize path then .error (.nameTooLong path)
  else .ok ()

def placeIn (path : String) (directory : Location) (name : String) : Except FileFault Location :=
  if nameLimit < Text.pathSize name then .error (.nameTooLong path) else .ok (directory ++ [name])

def follow (tree : FileTree) (path : String) : Location → List String → Except FileFault Location
  | place, [] => .ok place
  | place, part :: rest =>
    if part.isEmpty || part == "." then follow tree path place rest
    else if part == ".." then follow tree path (parent place) rest
    else
      match placeIn path place part with
      | .error fault => .error fault
      | .ok place =>
        if tree.isDirectory place then follow tree path place rest
        else if (tree.textAt? place).isSome then .error (.notDirectory path)
        else .error (.notFound path)

/-- Whether the last part of a path can only denote a directory. -/
def isDirectoryPart (part : String) : Bool :=
  part.isEmpty || part == "." || part == ".."

/-- The directory that a path leads into, and the last part of the path. -/
def enter (tree : FileTree) (path : String) : Except FileFault (Location × String) := do
  checkPath path
  let parts := pathParts path
  let directory ← tree.follow path (origin path) parts.dropLast
  return (directory, parts.getLast?.getD "")

/-- The place of what a path denotes, and its text if it is a file. -/
def find (tree : FileTree) (path : String) : Except FileFault (Location × Option String) := do
  let (directory, last) ← tree.enter path
  if isDirectoryPart last then return (← tree.follow path directory [last], none)
  else
    let place ← placeIn path directory last
    if tree.isDirectory place then return (place, none)
    else
      match tree.textAt? place with
      | some text => return (place, some text)
      | none => .error (.notFound path)

def holds (tree : FileTree) (path : String) : Bool :=
  match tree.find path with
  | .ok _ => true
  | .error _ => false

def holdsDirectory (tree : FileTree) (path : String) : Bool :=
  match tree.find path with
  | .ok (_, none) => true
  | _ => false

def read (tree : FileTree) (path : String) : Except FileFault String := do
  match ← tree.find path with
  | (_, some text) => return text
  | (_, none) => .error (.isDirectory path)

/-- The place a path denotes for a file that is written. -/
def locate (tree : FileTree) (path : String) : Except FileFault Location := do
  let (directory, last) ← tree.enter path
  if isDirectoryPart last then .error (.isDirectory path)
  else
    let place ← placeIn path directory last
    if tree.isDirectory place then .error (.isDirectory path) else return place

/-- The files with a text at a place, which takes the place of an earlier one. -/
def putFile (files : List (Location × String)) (place : Location) (text : String) :
    List (Location × String) :=
  if files.any (·.1 == place) then
    files.map fun entry => if entry.1 == place then (place, text) else entry
  else files ++ [(place, text)]

/-- The tree with a text written to a path. Its directory has to be there. -/
def write (tree : FileTree) (path text : String) : Except FileFault FileTree := do
  let place ← tree.locate path
  return { tree with files := putFile tree.files place text }

/-- The tree after a text has been written to a path. A text that cannot be encoded leaves its file
empty. -/
def writeEncoded (tree : FileTree) (path text : String) : Except FileFault Unit × FileTree :=
  match tree.write path (if Text.isEncodable text then text else "") with
  | .error fault => (.error fault, tree)
  | .ok written =>
    (if Text.isEncodable text then .ok () else .error (.unencodableText path), written)

/-- The tree with one more directory, which must not be there, inside one that is. -/
def makeDirectory (tree : FileTree) (path : String) : Except FileFault FileTree := do
  checkPath path
  let parts := ((pathParts path).reverse.dropWhile (·.isEmpty)).reverse
  let directory ← tree.follow path (origin path) parts.dropLast
  let last := parts.getLast?.getD ""
  if isDirectoryPart last then .error (.occupied path)
  else
    let place ← placeIn path directory last
    if tree.isDirectory place || (tree.textAt? place).isSome then .error (.occupied path)
    else return { tree with directories := tree.directories ++ [place] }

/-- A path before and after its last slash. Slashes at the end of the first part do not count, unless
there is nothing else. -/
def splitLast (path : List Char) : List Char × List Char :=
  let head := Text.throughLast '/' path
  let trimmed := Text.dropEndWhile (· == '/') head
  (if trimmed.isEmpty then head else trimmed, path.drop head.length)

theorem length_dropEndWhile_le (p : Char → Bool) (text : List Char) :
    (Text.dropEndWhile p text).length ≤ text.length := by
  unfold Text.dropEndWhile
  simpa using (List.dropWhile_suffix p (l := text.reverse)).length_le

theorem length_splitLast_le (path : List Char) :
    (splitLast path).1.length + (splitLast path).2.length ≤ path.length := by
  have hhead : (Text.throughLast '/' path).length ≤ path.length := length_dropEndWhile_le _ path
  have htrim := length_dropEndWhile_le (· == '/') (Text.throughLast '/' path)
  unfold splitLast
  simp only [List.length_drop]
  split <;> omega

/-- The directory a path names, as the directory around it and its own name, slashes at its end left
out. -/
def splitDirectory (path : List Char) : List Char × List Char :=
  let (head, tail) := splitLast path
  if tail.isEmpty then splitLast head else (head, tail)

theorem length_splitDirectory_le (path : List Char) :
    (splitDirectory path).1.length + (splitDirectory path).2.length ≤ path.length := by
  have houter := length_splitLast_le path
  have hinner := length_splitLast_le (splitLast path).1
  unfold splitDirectory
  simp only
  split <;> omega

def provideDirectory (tree : FileTree) (path : String) : Except FileFault Unit × FileTree :=
  match tree.makeDirectory path with
  | .ok tree => (.ok (), tree)
  | .error fault => (if tree.holdsDirectory path then .ok () else .error fault, tree)

/-- Makes a directory and those around it, as far as they are not there. What is made before a fault
stays. -/
def makeDirectories (tree : FileTree) (path : List Char) : Except FileFault Unit × FileTree :=
  match _parts : splitDirectory path with
  | (head, tail) =>
    if _inner : head.isEmpty || tail.isEmpty || tree.holds (String.ofList head) then
      tree.provideDirectory (String.ofList path)
    else
      match tree.makeDirectories head with
      | (.ok (), tree) => last tail tree
      | (.error (.occupied _), tree) => last tail tree
      | (.error fault, tree) => (.error fault, tree)
termination_by path.length
decreasing_by
  have hlength := length_splitDirectory_le path
  rw [_parts] at hlength
  have htail : 0 < tail.length := by
    cases tail with
    | nil => simp at _inner
    | cons _ _ => simp
  simp only at hlength
  omega
where
  /-- A directory of the name `.` is there once the one around it is. -/
  last (tail : List Char) (tree : FileTree) : Except FileFault Unit × FileTree :=
    if tail == ['.'] then (.ok (), tree) else tree.provideDirectory (String.ofList path)

/-- The path of the directory that a path leads into, without slashes at its end. -/
def directoryOf (path : String) : String :=
  String.ofList (splitLast path.toList).1

def join (directory path : String) : String :=
  if path.startsWith "/" then path
  else if directory.isEmpty || directory.endsWith "/" then directory ++ path
  else directory ++ "/" ++ path

end FileTree

end ScriptBridge
