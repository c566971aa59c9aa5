import ScriptBridge.Descriptor
import ScriptBridge.Error
import ScriptBridge.Namespace.Segments
import ScriptBridge.Pattern.Template

/-!
Script-side namespaces. The first rule whose pattern occurs in a managed namespace decides what it is
called in script.
-/

namespace ScriptBridge.Namespace

/-! ### Replacements

A replacement refers to a group as `$1` or by its name between braces after the dollar sign. All else
in it is literal. -/

def templateReference (name : List Char) : List Char :=
  '\\' :: 'g' :: '<' :: name ++ ['>']

def escapeBackslashes (text : List Char) : List Char :=
  text.flatMap fun c => if c == '\\' then ['\\', '\\'] else [c]

/-- The name between braces at the start of a text, and what follows it. -/
def bracedName? : List Char → Option (List Char × List Char)
  | '\x7b' :: rest =>
    let name := rest.takeWhile Text.isWordChar
    match rest.drop name.length with
    | '\x7d' :: rest => if name.isEmpty then none else some (name, rest)
    | _ => none
  | _ => none

theorem length_lt_of_bracedName? {text name rest : List Char}
    (found : bracedName? text = some (name, rest)) : rest.length < text.length := by
  unfold bracedName? at found
  split at found
  · rename_i body
    simp only at found
    split at found
    · rename_i tail hdrop
      split at found
      · cases found
      · cases found
        have hlength := congrArg List.length hdrop
        simp only [List.length_drop, List.length_cons] at hlength ⊢
        omega
    · cases found
  · cases found

/-- A text with its references to groups written as a template has them. -/
def groupReferences (text : List Char) : List Char :=
  match text with
  | [] => []
  | c :: rest =>
    if c == '$' then
      let digits := rest.takeWhile Text.isDecimal
      if digits.isEmpty then
        match _found : bracedName? rest with
        | some (name, rest') => templateReference name ++ groupReferences rest'
        | none => c :: groupReferences rest
      else templateReference digits ++ groupReferences (rest.dropWhile Text.isDecimal)
    else c :: groupReferences rest
termination_by text.length
decreasing_by
  · exact Nat.lt_succ_of_lt (length_lt_of_bracedName? _found)
  · simp
  · exact Nat.lt_succ_of_le (List.dropWhile_suffix Text.isDecimal).length_le
  · simp

def template (replacement : String) : List Char :=
  groupReferences (escapeBackslashes replacement.toList)

/-! ### Rules -/

/-- A rule whose pattern has been read. -/
structure CompiledRule where
  source : String
  pattern : NumberedPattern
  replacement : Value
deriving Repr, DecidableEq

namespace CompiledRule

def ofRule (rule : NamespaceRule) : Except Error CompiledRule :=
  match rule.pattern with
  | .text source =>
    match NumberedPattern.read source with
    | .ok pattern => .ok { source, pattern, replacement := rule.replacement }
    | .error .malformed => .error (.rejected [] (.invalidPattern source))
    | .error .repetitionTooLarge => .error (.misused .repetitionTooLarge)
    | .error .tooManyDigits => .error (.misused .tooManyDigits)
    | .error .conflictingSwitches => .error (.misused .conflictingSwitches)
  | _ => .error (.misused .patternNotText)

def applies (rule : CompiledRule) (space : String) : Bool :=
  rule.pattern.pattern.occurs space.toList

def replace (rule : CompiledRule) (space : String) : Except Error String :=
  match rule.replacement with
  | .text replacement =>
    match Template.read rule.pattern (template replacement) with
    | .ok pieces =>
      .ok (String.ofList (rule.pattern.pattern.replaceAll (Template.expand pieces) space.toList))
    | .error .malformed => .error (.rejected [] (.invalidReplacement replacement rule.source))
    | .error .unknownName => .error (.misused .unknownGroup)
  | _ => .error (.misused .replacementNotText)

end CompiledRule

/-- The namespace itself, or the global one in place of none. -/
def orGlobal (space : String) : String :=
  if space.isEmpty then global else space

/-- A namespace without dots at its ends; the global one if nothing is left. -/
def trimmed (space : String) : String :=
  orGlobal (String.ofList (Text.trimWhile (· == '.') space.toList))

/-- The script-side namespace of a managed one: the first rule that applies decides. -/
def resolve (rules : List CompiledRule) (space : String) : Except Error String :=
  let space := orGlobal space
  match rules.find? (·.applies space) with
  | some rule => (rule.replace space).map trimmed
  | none => .ok (trimmed space)

/-- Rules, and the namespaces that have been resolved by them. -/
structure Resolver where
  rules : List CompiledRule
  resolved : List (String × String) := []
deriving Repr, DecidableEq

namespace Resolver

def ofRules (rules : List NamespaceRule) : Except Error Resolver :=
  return { rules := ← rules.mapM CompiledRule.ofRule }

/-- The script-side namespace of a managed one, and the resolver that remembers it. Failures are not
remembered. -/
def resolve (resolver : Resolver) (space : String) : Except Error String × Resolver :=
  let space := orGlobal space
  match resolver.resolved.lookup space with
  | some target => (.ok target, resolver)
  | none =>
    match Namespace.resolve resolver.rules space with
    | .ok target =>
      (.ok target, { resolver with resolved := (space, target) :: resolver.resolved })
    | .error e => (.error e, resolver)

def resolveAll (resolver : Resolver) : List String → List (Except Error String)
  | [] => []
  | space :: rest =>
    let (answer, resolver) := resolver.resolve space
    answer :: resolver.resolveAll rest

end Resolver

end ScriptBridge.Namespace
