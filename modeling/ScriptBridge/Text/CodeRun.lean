/-!
Sets of characters given as runs of code points.
-/

namespace ScriptBridge.Text

/-- The code points `first`, `first + step`, …, `last`. -/
structure CodeRun where
  first : Nat
  last : Nat
  step : Nat
deriving Repr, DecidableEq

namespace CodeRun

def contains (run : CodeRun) (code : Nat) : Bool :=
  run.first ≤ code && code ≤ run.last && (code - run.first) % run.step == 0

def covers (table : List CodeRun) (c : Char) : Bool :=
  table.any (·.contains c.toNat)

end CodeRun

/-- Code points of which each belongs to another at a fixed distance. -/
structure ShiftRun where
  run : CodeRun
  shift : Int
deriving Repr, DecidableEq

/-- The character that a table takes a character to, itself if the table does not hold it. -/
def ShiftRun.apply (table : List ShiftRun) (c : Char) : Char :=
  match table.find? (·.run.contains c.toNat) with
  | some entry => Char.ofNat (c.toNat + entry.shift).toNat
  | none => c

end ScriptBridge.Text
