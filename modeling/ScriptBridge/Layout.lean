/-!
Lines of generated code at their levels of indentation.
-/

namespace ScriptBridge

/-- Code being written: the lines so far, and the level the next one stands at. -/
structure Writer where
  unit : String := "    "
  level : Nat := 0
  lines : List String := []
deriving Repr, DecidableEq

namespace Writer

def indentation (w : Writer) : String :=
  String.join (List.replicate w.level w.unit)

/-- A line at the current level. A line without text is not indented. -/
def line (w : Writer) (text : String) : Writer :=
  { w with lines := w.lines ++ [if text.isEmpty then "" else w.indentation ++ text] }

def addLines (w : Writer) (texts : List String) : Writer :=
  texts.foldl line w

def indent (w : Writer) : Writer :=
  { w with level := w.level + 1 }

/-- One level out; the outermost level is not left. -/
def dedent (w : Writer) : Writer :=
  { w with level := w.level - 1 }

def enter (w : Writer) (header : String) : Writer :=
  (w.line header).indent

def leave (w : Writer) (footer : String) : Writer :=
  w.dedent.line footer

/-- Texts with a separator after each but the last. -/
def separate (separator : String) : List String → List String
  | [] => []
  | [last] => [last]
  | text :: rest => (text ++ separator) :: separate separator rest

def separated (w : Writer) (texts : List String) (separator : String) : Writer :=
  w.addLines (separate separator texts)

def output (w : Writer) : String :=
  if w.lines.isEmpty then "" else String.intercalate "\n" w.lines ++ "\n"

end Writer

/-- A piece of generated code: a line, or a block between a header and a footer. -/
inductive Layout
  | line (text : String)
  | block (header : String) (body : List Layout) (footer : String)
deriving Repr

namespace Layout

mutual

def write (w : Writer) : Layout → Writer
  | .line text => w.line text
  | .block header body footer => (writeAll (w.enter header) body).leave footer

def writeAll (w : Writer) : List Layout → Writer
  | [] => w
  | piece :: rest => writeAll (piece.write w) rest

end

def text (pieces : List Layout) : String :=
  (writeAll {} pieces).output

end Layout

end ScriptBridge
