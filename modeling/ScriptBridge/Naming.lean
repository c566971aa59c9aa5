import ScriptBridge.Error
import ScriptBridge.Text.Case
import ScriptBridge.Value

/-!
Script-side names of what the managed side declares.
-/

namespace ScriptBridge.Naming

open Text

/-- How many of the leading capitals of a name are lowered. The last of several starts the next word,
unless the name ends with it. -/
def loweredCapitals (name : List Char) : Nat :=
  let capitals := (name.takeWhile isCapital).length
  if capitals = name.length then capitals
  else if capitals ≤ 1 then capitals
  else capitals - 1

/-- The name with its leading capitals in lower case: `URLPath` becomes `urlPath`. -/
def camelCase (name : String) : String :=
  let chars := name.toList
  let count := loweredCapitals chars
  String.ofList (lower (chars.take count) ++ chars.drop count)

/-- The name of a member. An empty name stays as it is; a list is gone through like the letters of a
text, and is left alone if it does not start with a capital. -/
def memberName (name : Value) : Except Misuse Value :=
  match name with
  | .text s => .ok (.text (camelCase s))
  | .list items => do
    match ← capitalItems items with
    | 0 => return name
    | 1 => if items.length = 1 then .error .nameWithoutCase else .error .nameNotText
    | _ => .error .nameWithoutCase
  | .record (_ :: _) => .error .nameWithoutStart
  | _ => if name.isTruthy then .error .nameNotText else .ok name
where
  /-- How many of the leading items are capitals. -/
  capitalItems : List Value → Except Misuse Nat
    | [] => .ok 0
    | .text s :: rest => do
      if isUpper s.toList then return (← capitalItems rest) + 1 else return 0
    | _ :: _ => .error .nameWithoutCase

/-- The name with its first letter in lower case: `UIReady` becomes `uIReady`. -/
def lowerFirst (name : String) : String :=
  let chars := name.toList
  String.ofList (lower (chars.take 1) ++ chars.drop 1)

/-- Names that no parameter of a script function can have. -/
def reserved : List String :=
  ["arguments", "await", "break", "case", "catch", "class", "const", "continue", "debugger",
    "default", "delete", "do", "else", "enum", "eval", "export", "extends", "false", "finally",
    "for", "function", "if", "implements", "import", "in", "instanceof", "interface", "let", "new",
    "null", "package", "private", "protected", "public", "return", "static", "super", "switch",
    "this", "throw", "true", "try", "typeof", "var", "void", "while", "with", "yield"]

/-- The name of a parameter: `fn` for `function`, an underscore after any other reserved name. -/
def parameterName (name : String) : String :=
  if name == "function" then "fn"
  else if reserved.contains name then name ++ "_"
  else name

/-- A character of a string literal between double quotes. -/
def literalChar (c : Char) : List Char :=
  if c == '\\' || c == '"' then ['\\', c] else [c]

def stringLiteral (text : String) : String :=
  String.ofList ('"' :: text.toList.flatMap literalChar ++ ['"'])

end ScriptBridge.Naming
