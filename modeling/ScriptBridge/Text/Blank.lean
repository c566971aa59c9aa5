import ScriptBridge.Text.CodeRun

/-!
White space, and texts without it at their ends.
-/

namespace ScriptBridge.Text

def blankRuns : List CodeRun :=
  [⟨9, 13, 1⟩, ⟨28, 32, 1⟩, ⟨133, 133, 1⟩, ⟨160, 160, 1⟩, ⟨5760, 5760, 1⟩, ⟨8192, 8202, 1⟩,
   ⟨8232, 8233, 1⟩, ⟨8239, 8239, 1⟩, ⟨8287, 8287, 1⟩, ⟨12288, 12288, 1⟩]

/-- White space of any script, the ASCII separators U+001C to U+001F included. -/
def isBlank (c : Char) : Bool :=
  CodeRun.covers blankRuns c

/-- The text without the characters of a class at its end. -/
def dropEndWhile (p : Char → Bool) (text : List Char) : List Char :=
  (text.reverse.dropWhile p).reverse

/-- The text without the characters of a class at its start and at its end. -/
def trimWhile (p : Char → Bool) (text : List Char) : List Char :=
  dropEndWhile p (text.dropWhile p)

end ScriptBridge.Text
