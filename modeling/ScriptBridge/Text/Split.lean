/-!
Cutting a text at a character.
-/

namespace ScriptBridge.Text

/-- The parts of a text between the occurrences of a character; there is one more part than
occurrences. -/
def splitAtChar (mark : Char) : List Char → List (List Char)
  | [] => [[]]
  | c :: rest =>
    if c == mark then [] :: splitAtChar mark rest
    else
      match splitAtChar mark rest with
      | part :: others => (c :: part) :: others
      | [] => [[c]]

theorem splitAtChar_ne_nil (mark : Char) (text : List Char) : splitAtChar mark text ≠ [] := by
  cases text with
  | nil => simp [splitAtChar]
  | cons c rest =>
    unfold splitAtChar
    split
    · simp
    · split <;> simp

/-- A text up to and including the last occurrence of a character; nothing if it does not occur. -/
def throughLast (mark : Char) (text : List Char) : List Char :=
  (text.reverse.dropWhile (· != mark)).reverse

def dottedParts (text : String) : List String :=
  (splitAtChar '.' text.toList).map String.ofList

def dotted (parts : List String) : String :=
  String.intercalate "." parts

end ScriptBridge.Text
