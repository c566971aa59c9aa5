import ScriptBridge.Text.Printable
import ScriptBridge.Text.Unpaired

/-!
Texts in quotes, as messages show them.
-/

namespace ScriptBridge.Text

/-- The lower hexadecimal digits of a number, filled up with zeros to a width. -/
def hexadecimal (width n : Nat) : List Char :=
  let digits := Nat.toDigits 16 n
  List.replicate (width - digits.length) '0' ++ digits

/-- How one character is written between quotes of the given kind. -/
def escapedChar (quote c : Char) : List Char :=
  if c == quote || c == '\\' then ['\\', c]
  else if c == '\t' then ['\\', 't']
  else if c == '\n' then ['\\', 'n']
  else if c == '\r' then ['\\', 'r']
  else if isPrintable c then [c]
  else
    let code := codePoint c
    if code < 0x100 then '\\' :: 'x' :: hexadecimal 2 code
    else if code < 0x10000 then '\\' :: 'u' :: hexadecimal 4 code
    else '\\' :: 'U' :: hexadecimal 8 code

/-- Single quotes, unless the text holds one of them and no double quote. -/
def quoteFor (text : List Char) : Char :=
  if text.contains '\'' && !text.contains '"' then '"' else '\''

/-- A text between quotes, its hidden characters as escapes. -/
def quoted (text : String) : String :=
  let chars := text.toList
  let quote := quoteFor chars
  String.ofList (quote :: chars.flatMap (escapedChar quote) ++ [quote])

end ScriptBridge.Text
