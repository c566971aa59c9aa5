import ScriptBridge.Text.Numeric
import ScriptBridge.Text.Split

/-!
The options of the command line. A long option may be written by any prefix that no other option shares,
and its value after an equals sign; the options of one letter may be written together, also with an
equals sign after the first. A value of `--` is no value.
-/

namespace ScriptBridge.CommandLine

structure Options where
  modules : List String := []
  entry : String := ""
  rules : List (Option String) := []
  ignores : List (Option String) := []
  outputDirectory : Option String := some "gen"
  declarations : Option String := none
  bindings : Option String := none
  serializer : Option String := none
  verbose : Bool := false
deriving Repr, DecidableEq

/-- Why there are no options: they are misused, or help is asked for. -/
inductive Stop
  | misused
  | help
deriving Repr, DecidableEq

inductive Flag
  | help
  | verbose
deriving Repr, DecidableEq

inductive Setting
  | entry
  | rule
  | ignore
  | outputDirectory
  | declarations
  | bindings
  | serializer
deriving Repr, DecidableEq

inductive Switch
  | flag (flag : Flag)
  | setting (setting : Setting)
deriving Repr, DecidableEq

def shortFlags : List (Char × Flag) := [('h', .help), ('v', .verbose)]

def longSwitches : List (String × Switch) :=
  [("--help", .flag .help), ("--entry", .setting .entry), ("--rule", .setting .rule),
    ("--ignore", .setting .ignore), ("--output-dir", .setting .outputDirectory),
    ("--declarations", .setting .declarations), ("--bindings", .setting .bindings),
    ("--serializer", .setting .serializer), ("--verbose", .flag .verbose)]

inductive Word
  | plain (text : String)
  /-- `--`, after which all words are plain. -/
  | separator
  /-- A long option, and the value attached to it. -/
  | long (switch : Switch) (attached : Option String)
  /-- A flag of one letter, and the letters of others after it. -/
  | short (flag : Flag) (letters : List Char)
  /-- A flag of one letter with an equals sign and nothing after it. -/
  | incomplete
  | unknown
deriving Repr, DecidableEq

def Word.isPlain : Word → Bool
  | .plain _ => true
  | _ => false

/-- Whether a word after its minus looks like a number. A line feed may end it. -/
def isNumeral (text : List Char) : Bool :=
  let text := if text.getLast? == some '\n' then text.dropLast else text
  match text.dropWhile Text.isDecimal with
  | [] => !text.isEmpty
  | '.' :: decimals => !decimals.isEmpty && decimals.all Text.isDecimal
  | _ => false

def splitValue (text : List Char) : List Char × Option String :=
  match text.dropWhile (· != '=') with
  | _ :: value => (text.takeWhile (· != '='), some (String.ofList value))
  | [] => (text, none)

/-- The long option that a word with two minuses is. -/
def longWord (text : List Char) : Except Stop Word :=
  let (name, attached) := splitValue text
  match longSwitches.find? (·.1.toList == name) with
  | some (_, switch) => .ok (.long switch attached)
  | none =>
    match longSwitches.filter (fun entry => name.isPrefixOf entry.1.toList) with
    | [(_, switch)] => .ok (.long switch attached)
    | [] => .ok (if text.contains ' ' then .plain (String.ofList text) else .unknown)
    | _ => .error .misused

/-- What a word is, before any separator. -/
def Word.ofText (text : String) : Except Stop Word :=
  let chars := text.toList
  match chars with
  | '-' :: '-' :: _ => longWord chars
  | '-' :: c :: rest =>
    match shortFlags.lookup c, rest with
    | some _, ['='] => .ok .incomplete
    | some flag, '=' :: letters => .ok (.short flag letters)
    | some flag, letters => .ok (.short flag letters)
    | none, _ =>
      .ok (if isNumeral (c :: rest) || text.toList.contains ' ' then .plain text else .unknown)
  | _ => .ok (.plain text)

def words : List String → Except Stop (List Word)
  | [] => .ok []
  | "--" :: rest => .ok (.separator :: rest.map .plain)
  | text :: rest => do
    let word ← Word.ofText text
    return word :: (← words rest)

def Options.set (options : Options) (value : Option String) : Setting → Options
  | .entry => { options with entry := value.getD "" }
  | .rule => { options with rules := options.rules ++ [value] }
  | .ignore => { options with ignores := options.ignores ++ [value] }
  | .outputDirectory => { options with outputDirectory := value }
  | .declarations => { options with declarations := value }
  | .bindings => { options with bindings := value }
  | .serializer => { options with serializer := value }

def valueOf (text : String) : Option String :=
  if text == "--" then none else some text

/-- What has been read of a command line: the options, whether the modules have been named, and whether
there are words without a use. -/
structure Progress where
  options : Options := {}
  hasModules : Bool := false
  hasExtras : Bool := false
deriving Repr

def Progress.raise (p : Progress) : Flag → Except Stop Progress
  | .help => .error .help
  | .verbose => .ok { p with options := { p.options with verbose := true } }

def cluster (flag : Flag) (letters : List Char) : Except Stop (List Flag) :=
  match letters.mapM fun letter => shortFlags.lookup letter with
  | some flags => .ok (flag :: flags)
  | none => .error .misused

/-- Takes the words between two options. The first run that names anything names the modules; the first
separator in it does not count. -/
def Progress.takeRun (p : Progress) (run : List Word) : Progress :=
  if run.isEmpty then p
  else if !p.hasModules && run.any Word.isPlain then
    let modules := (run.erase .separator).filterMap fun
      | .plain text => some text
      | .separator => some "--"
      | _ => none
    { p with options := { p.options with modules }, hasModules := true }
  else { p with hasExtras := true }

/-- Takes the words that are left, of which a run without options has been set aside. -/
def takeWords (p : Progress) (run : List Word) : List Word → Except Stop Progress
  | [] => .ok (p.takeRun run)
  | .plain text :: rest => takeWords p (run ++ [.plain text]) rest
  | .separator :: rest => takeWords p (run ++ [.separator]) rest
  | .unknown :: rest => takeWords { p.takeRun run with hasExtras := true } [] rest
  | .incomplete :: _ => .error .misused
  | .short flag letters :: rest => do
    let flags ← cluster flag letters
    takeWords (← flags.foldlM Progress.raise (p.takeRun run)) [] rest
  | .long (.flag flag) none :: rest => do takeWords (← (p.takeRun run).raise flag) [] rest
  | .long (.flag _) (some _) :: _ => .error .misused
  | .long (.setting setting) (some value) :: rest =>
    let p := p.takeRun run
    takeWords { p with options := p.options.set (valueOf value) setting } [] rest
  | .long (.setting setting) none :: .plain value :: rest =>
    let p := p.takeRun run
    takeWords { p with options := p.options.set (valueOf value) setting } [] rest
  | .long (.setting _) none :: _ => .error .misused

/-- The options of a command line. Modules have to be named, and every word has to have a use. -/
def Options.ofArguments (arguments : List String) : Except Stop Options := do
  let p ← takeWords {} [] (← words arguments)
  if p.hasModules && !p.hasExtras then return p.options else .error .misused

end ScriptBridge.CommandLine
