import ScriptBridge.Text.Alphabetic
import ScriptBridge.Text.Blank

/-!
The tokens of type expressions.
-/

namespace ScriptBridge.TypeExpr

open Text

inductive Token
  /-- An identifier of ASCII letters, digits and underscores. -/
  | word (name : String)
  /-- `[` and `]` with nothing but blanks between them. -/
  | brackets
  /-- Any other character, alone. -/
  | symbol (c : Char)
deriving Repr, DecidableEq

namespace Token

def text : Token → String
  | .word name => name
  | .brackets => "[]"
  | .symbol c => String.singleton c

/-- Identifiers, and letters outside ASCII, which are tokens of their own. -/
def isIdentifier : Token → Bool
  | .word _ => true
  | .brackets => false
  | .symbol c => isAlphabetic c

/-- The separators of a qualified name. -/
def isSeparator : Token → Bool
  | .symbol c => c == '.' || c == '+'
  | _ => false

end Token

def isWordStart (c : Char) : Bool :=
  c.isAlpha || c == '_'

def isWordPart (c : Char) : Bool :=
  c.isAlphanum || c == '_'

/-- The rest of a text after `global::`, which may stand before any token and means nothing. -/
def afterGlobal? : List Char → Option (List Char)
  | 'g' :: 'l' :: 'o' :: 'b' :: 'a' :: 'l' :: ':' :: ':' :: rest => some rest
  | _ => none

theorem length_lt_of_afterGlobal? {text rest : List Char} (found : afterGlobal? text = some rest) :
    rest.length < text.length := by
  unfold afterGlobal? at found
  split at found
  · cases found
    simp only [List.length_cons]
    omega
  · cases found

theorem length_dropWhile_le (p : Char → Bool) (text : List Char) :
    (text.dropWhile p).length ≤ text.length :=
  (List.dropWhile_suffix p).length_le

/-- The tokens of a text, blanks left out. Identifiers are as long as possible. -/
def tokens (text : List Char) : List Token :=
  match text with
  | [] => []
  | c :: rest =>
    if isBlank c then tokens rest
    else
      match _found : afterGlobal? (c :: rest) with
      | some tail => tokens tail
      | none =>
        if isWordStart c then
          .word (String.ofList (c :: rest.takeWhile isWordPart)) ::
            tokens (rest.dropWhile isWordPart)
        else if c == '[' then
          match _closed : rest.dropWhile isBlank with
          | ']' :: tail => .brackets :: tokens tail
          | _ => .symbol c :: tokens rest
        else .symbol c :: tokens rest
termination_by text.length
decreasing_by
  · simp
  · exact length_lt_of_afterGlobal? _found
  · exact Nat.lt_succ_of_le (length_dropWhile_le isWordPart rest)
  · have shorter := length_dropWhile_le isBlank rest
    rw [_closed] at shorter
    simp only [List.length_cons] at shorter ⊢
    omega
  · simp
  · simp

end ScriptBridge.TypeExpr
