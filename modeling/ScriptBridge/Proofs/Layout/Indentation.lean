import Mathlib.Order.Bounds.Basic
import ScriptBridge.Layout
import ScriptBridge.Proofs.Text.Split

/-!
# Lines at their levels

Code is written in steps, some of which go a level in or out. Where they are balanced, each line stands as
deep as it is nested, and the level is what it was. In any steps the level is that of a walk that is stopped
at the outermost level. The lines are read back from the text if none of them holds a newline.
-/

namespace ScriptBridge

namespace Writer

/-- What a writer may be asked for. -/
inductive Step
  | line (text : String)
  | lines (texts : List String)
  | separated (texts : List String) (separator : String)
  | indent
  | dedent
  | enter (header : String)
  | leave (footer : String)

def perform (w : Writer) : Step → Writer
  | .line text => w.line text
  | .lines texts => w.addLines texts
  | .separated texts separator => w.separated texts separator
  | .indent => w.indent
  | .dedent => w.dedent
  | .enter header => w.enter header
  | .leave footer => w.leave footer

def run (w : Writer) (steps : List Step) : Writer :=
  steps.foldl perform w

namespace Step

/-- The texts of the lines that a step adds. -/
def texts : Step → List String
  | .line text => [text]
  | .lines texts => texts
  | .separated texts separator => separate separator texts
  | .indent | .dedent => []
  | .enter header => [header]
  | .leave footer => [footer]

/-- How many levels a step leads in. -/
def change : Step → Int
  | .indent | .enter _ => 1
  | .dedent | .leave _ => -1
  | .line _ | .lines _ | .separated .. => 0

end Step

/-- How many levels some steps lead in. -/
def net : List Step → Int
  | [] => 0
  | step :: rest => step.change + net rest

/-- What leads in is followed by what leads out of it. -/
inductive Balanced : List Step → Prop
  | nil : Balanced []
  | text {step : Step} {rest : List Step} : step.change = 0 → Balanced rest → Balanced (step :: rest)
  | deeper {inner rest : List Step} : Balanced inner → Balanced rest →
    Balanced (.indent :: (inner ++ .dedent :: rest))
  | block {header footer : String} {inner rest : List Step} : Balanced inner → Balanced rest →
    Balanced (.enter header :: (inner ++ .leave footer :: rest))

/-- A line at a level: as many indentations, then the text. A line without text has none. -/
def indented (unit : String) (level : Nat) (text : String) : String :=
  if text.isEmpty then "" else String.join (List.replicate level unit) ++ text

/-- The texts of some steps, each with how deep it is nested in them. A header and a footer stand outside
of what is between them. -/
def placed (depth : Int) : List Step → List (Int × String)
  | [] => []
  | step :: rest =>
    step.texts.map (fun text => (min depth (depth + step.change), text)) ++
      placed (depth + step.change) rest

/-- No step leads out of the outermost level. -/
def StaysIn (level : Int) : List Step → Prop
  | [] => True
  | step :: rest => 0 ≤ level + step.change ∧ StaysIn (level + step.change) rest

section Runs

variable {w : Writer} {step : Step} {steps inner rest : List Step} {level depth : Int}

/-! ### Steps -/

theorem addLines_eq (w : Writer) (texts : List String) :
    w.addLines texts = { w with lines := w.lines ++ texts.map (indented w.unit w.level) } := by
  induction texts generalizing w with
  | nil => rw [List.map_nil, List.append_nil]; rfl
  | cons text texts ih =>
    refine (ih (w.line text)).trans ?_
    rw [List.map_cons, List.append_cons]
    rfl

/-- What a step does: it adds its texts at the outer of the levels before and after it. -/
theorem perform_eq (w : Writer) (step : Step) :
    w.perform step =
      { w with
        level := (w.level + step.change).toNat
        lines := w.lines ++
          step.texts.map (indented w.unit (min w.level (w.level + step.change).toNat)) } := by
  have hout : ((w.level : Int) + -1).toNat = w.level - 1 := by omega
  cases step with
  | line text | lines texts | separated texts separator =>
    simp [perform, line, separated, addLines_eq, Step.texts, Step.change, indented, indentation]
  | indent | dedent =>
    simp [perform, indent, dedent, Step.texts, Step.change, hout]
  | enter header =>
    simp [perform, enter, indent, line, Step.texts, Step.change, indented, indentation]
  | leave footer =>
    simp [perform, leave, dedent, line, Step.texts, Step.change, indented, indentation, hout]

theorem run_append (w : Writer) (steps rest : List Step) :
    w.run (steps ++ rest) = (w.run steps).run rest :=
  List.foldl_append

@[simp] theorem net_nil : net [] = 0 := rfl

@[simp] theorem net_cons (step : Step) (steps : List Step) :
    net (step :: steps) = step.change + net steps := rfl

@[simp] theorem net_append (steps rest : List Step) : net (steps ++ rest) = net steps + net rest := by
  induction steps with
  | nil => exact (Int.zero_add _).symm
  | cons step steps ih => rw [List.cons_append, net_cons, net_cons, ih, Int.add_assoc]

/-! ### Balanced steps -/

theorem staysIn_append :
    StaysIn level (steps ++ rest) ↔ StaysIn level steps ∧ StaysIn (level + net steps) rest := by
  induction steps generalizing level with
  | nil => simp [StaysIn]
  | cons step steps ih => simp [StaysIn, ih, and_assoc, Int.add_assoc]

theorem Balanced.append (hsteps : Balanced steps) (hrest : Balanced rest) :
    Balanced (steps ++ rest) := by
  induction hsteps with
  | nil => exact hrest
  | text hchange _ ih => exact .text hchange ih
  | @deeper inner after hinner _ _ ih =>
    rw [List.cons_append, List.append_assoc]
    exact .deeper hinner ih
  | @block header footer inner after hinner _ _ ih =>
    rw [List.cons_append, List.append_assoc]
    exact .block hinner ih

theorem Balanced.net_eq_zero (hbalanced : Balanced steps) : net steps = 0 := by
  induction hbalanced with
  | nil => rfl
  | text hchange _ ih => rw [net_cons, hchange, ih]; rfl
  | deeper _ _ hinner hrest | block _ _ hinner hrest =>
    simp [hinner, hrest, Step.change]

theorem Balanced.staysIn (hbalanced : Balanced steps) (hlevel : 0 ≤ level) : StaysIn level steps := by
  induction hbalanced generalizing level with
  | nil => trivial
  | text hchange _ ih =>
    rw [StaysIn, hchange, Int.add_zero]
    exact ⟨hlevel, ih hlevel⟩
  | deeper hinner _ ihInner ihRest | block hinner _ ihInner ihRest =>
    have hin : 0 ≤ level + 1 := by omega
    rw [StaysIn, staysIn_append, hinner.net_eq_zero, StaysIn]
    simp only [Step.change, Int.add_zero, Int.add_neg_cancel_right]
    exact ⟨hin, ihInner hin, hlevel, ihRest hlevel⟩

theorem depth_of_mem_placed (hdepth : 0 ≤ depth) (hstays : StaysIn depth steps) :
    ∀ entry ∈ placed depth steps, 0 ≤ entry.1 := by
  induction steps generalizing depth with
  | nil => exact fun _ hmem => nomatch hmem
  | cons step steps ih =>
    obtain ⟨hstep, hrest⟩ := hstays
    intro entry hentry
    rcases List.mem_append.1 hentry with htext | hentry
    · obtain ⟨text, -, rfl⟩ := List.mem_map.1 htext
      exact le_min hdepth hstep
    · exact ih hstep hrest entry hentry

/-- Steps that stay inside lead as far in as they say, and each text stands as deep as it is nested, counted
from the level that depth zero is at. -/
theorem run_of_staysIn {base : Nat} (hlevel : (w.level : Int) = base + depth) (hdepth : 0 ≤ depth)
    (hstays : StaysIn depth steps) :
    w.run steps =
      { w with
        level := (w.level + net steps).toNat
        lines := w.lines ++
          (placed depth steps).map fun entry => indented w.unit (base + entry.1.toNat) entry.2 } := by
  induction steps generalizing w depth with
  | nil => simp [run, placed]
  | cons step steps ih =>
    obtain ⟨hstep, hrest⟩ := hstays
    have hafter : ((w.perform step).level : Int) = base + (depth + step.change) := by
      rw [perform_eq]
      dsimp only
      omega
    have hplace : min w.level (w.level + step.change).toNat =
        base + (min depth (depth + step.change)).toNat := by omega
    have hnet : (((w.level + step.change).toNat : Int) + net steps).toNat =
        (w.level + net (step :: steps)).toNat := by
      rw [net_cons]
      omega
    refine (ih hafter hstep hrest).trans ?_
    rw [perform_eq]
    simp only [placed, List.map_append, List.map_map, List.append_assoc, hplace, hnet]
    rfl

theorem Balanced.run_eq (hbalanced : Balanced steps) (w : Writer) :
    w.run steps =
      { w with
        lines := w.lines ++
          (placed 0 steps).map fun entry => indented w.unit (w.level + entry.1.toNat) entry.2 } := by
  rw [run_of_staysIn (Int.add_zero _).symm (le_refl 0) (hbalanced.staysIn (le_refl 0)),
    hbalanced.net_eq_zero, Int.add_zero, Int.toNat_natCast]

/-- A footer stands as its header does, whatever balanced steps there are between them. -/
theorem Balanced.lines_block (hinner : Balanced inner) (w : Writer) (header footer : String) :
    (w.run (.enter header :: (inner ++ [.leave footer]))).lines =
      w.lines ++ indented w.unit w.level header :: ((placed 0 inner).map
        (fun entry => indented w.unit (w.level + 1 + entry.1.toNat) entry.2) ++
        [indented w.unit w.level footer]) := by
  have hrun : w.run (.enter header :: (inner ++ [.leave footer])) =
      ((w.enter header).run inner).leave footer := run_append (w.enter header) inner [.leave footer]
  rw [hrun, hinner.run_eq]
  simp [enter, leave, indent, dedent, line, indented, indentation]

/-! ### Any steps -/

/-- The level that a writer stops at: either no step was stopped at the outermost level, or what came after
the last one that was has led in from there. -/
theorem isGreatest_level_run (w : Writer) (steps : List Step) :
    IsGreatest {n : Int | n = w.level + net steps ∨ ∃ last, last <:+ steps ∧ n = net last}
      (w.run steps).level := by
  induction steps generalizing w with
  | nil =>
    refine ⟨.inl (Int.add_zero _).symm, ?_⟩
    rintro n (rfl | ⟨last, hlast, rfl⟩)
    · exact le_of_eq (Int.add_zero _)
    · rw [List.suffix_nil.1 hlast]
      exact Int.natCast_nonneg _
  | cons step steps ih =>
    have hafter : ((w.perform step).level : Int) = max 0 (w.level + step.change) := by
      rw [perform_eq]
      dsimp only
      omega
    obtain ⟨hmem, hupper⟩ := ih (w.perform step)
    have hstart : ((w.perform step).level : Int) + net steps ≤ ((w.perform step).run steps).level :=
      hupper (.inl rfl)
    have hsuffix : ∀ last, last <:+ steps → net last ≤ ((w.perform step).run steps).level :=
      fun last hlast => hupper (.inr ⟨last, hlast, rfl⟩)
    constructor
    · rcases hmem with hmem | ⟨last, hlast, hmem⟩
      · rw [hafter, max_def] at hmem
        split at hmem
        · exact .inl (hmem.trans (by rw [net_cons]; omega))
        · exact .inr ⟨steps, List.suffix_cons step steps, hmem.trans (Int.zero_add _)⟩
      · exact .inr ⟨last, hlast.trans (List.suffix_cons step steps), hmem⟩
    · change ∀ n, _ → n ≤ (((w.perform step).run steps).level : Int)
      rintro n (rfl | ⟨last, hlast, rfl⟩)
      · rw [net_cons]
        omega
      · rcases List.suffix_cons_iff.1 hlast with rfl | hlast
        · rw [net_cons]
          omega
        · exact hsuffix last hlast

/-! ### The text -/

/-- Where no text that is written holds a newline, and the indentation does not, no line does. -/
theorem newline_not_mem_run {w : Writer} (hlines : ∀ line ∈ w.lines, '\n' ∉ line.toList)
    (hunit : '\n' ∉ w.unit.toList) (htexts : ∀ step ∈ steps, ∀ text ∈ step.texts, '\n' ∉ text.toList) :
    ∀ line ∈ (w.run steps).lines, '\n' ∉ line.toList := by
  induction steps generalizing w with
  | nil => exact hlines
  | cons step steps ih =>
    obtain ⟨hstep, hrest⟩ := List.forall_mem_cons.1 htexts
    have hindented : ∀ (level : Nat) (text : String), '\n' ∉ text.toList →
        '\n' ∉ (indented w.unit level text).toList := by
      intro level text htext
      unfold indented
      split
      · exact List.not_mem_nil
      · rw [String.toList_append, List.mem_append, not_or]
        refine ⟨fun hmem => ?_, htext⟩
        rw [String.toList_join, List.mem_flatMap] at hmem
        obtain ⟨copy, hcopy, hmem⟩ := hmem
        rw [List.eq_of_mem_replicate hcopy] at hmem
        exact hunit hmem
    refine ih (w := w.perform step) ?_ ?_ hrest
    · rw [perform_eq]
      intro line hline
      rcases List.mem_append.1 hline with hline | hline
      · exact hlines line hline
      · obtain ⟨text, htext, rfl⟩ := List.mem_map.1 hline
        exact hindented _ text (hstep text htext)
    · rw [perform_eq]
      exact hunit

theorem toList_output {w : Writer} (hne : w.lines ≠ []) :
    w.output.toList = ['\n'].intercalate (w.lines.map String.toList) ++ ['\n'] := by
  rw [output, if_neg (by simpa using hne), String.toList_append, String.toList_intercalate]
  rfl

/-- Cut at its newlines, the text gives back the lines, and nothing stands after the last newline. -/
def ReadsBack (w : Writer) : Prop :=
  (Text.splitAtChar '\n' w.output.toList).map String.ofList = w.lines ++ [""]

theorem readsBack_iff {w : Writer} : w.ReadsBack ↔ ∀ line ∈ w.lines, '\n' ∉ line.toList := by
  unfold ReadsBack
  constructor
  · intro hsplit line hline
    have hmem : line ∈ (Text.splitAtChar '\n' w.output.toList).map String.ofList :=
      hsplit ▸ List.mem_append_left _ hline
    obtain ⟨part, hpart, rfl⟩ := List.mem_map.1 hmem
    rw [String.toList_ofList]
    exact Text.not_mem_of_mem_splitAtChar hpart
  · intro hlines
    by_cases hne : w.lines = []
    · rw [output, hne]
      rfl
    · have hparts : (['\n'].intercalate (w.lines.map String.toList)).splitOn '\n' =
          w.lines.map String.toList := by
        refine List.splitOn_intercalate '\n' (fun chars hchars => ?_) (by simpa using hne)
        obtain ⟨line, hline, rfl⟩ := List.mem_map.1 hchars
        exact hlines line hline
      rw [Text.splitAtChar_eq_splitOn, toList_output hne, List.splitOn_append_cons_self, hparts,
        List.splitOn_nil, List.map_append, List.map_map]
      congr 1
      exact (List.map_congr_left fun line _ => String.ofList_toList).trans (List.map_id _)

end Runs

end Writer

/-! ### Pieces of code -/

namespace Layout

mutual

/-- The steps that write a piece. -/
def steps : Layout → List Writer.Step
  | .line text => [.line text]
  | .block header body footer => .enter header :: (stepsAll body ++ [.leave footer])

def stepsAll : List Layout → List Writer.Step
  | [] => []
  | piece :: rest => piece.steps ++ stepsAll rest

end

mutual

theorem balanced_steps : ∀ piece : Layout, Writer.Balanced piece.steps
  | .line _ => .text rfl .nil
  | .block _ body _ => .block (balanced_stepsAll body) .nil

theorem balanced_stepsAll : ∀ pieces : List Layout, Writer.Balanced (stepsAll pieces)
  | [] => .nil
  | piece :: rest => (balanced_steps piece).append (balanced_stepsAll rest)

end

mutual

theorem write_eq_run : ∀ (piece : Layout) (w : Writer), piece.write w = w.run piece.steps
  | .line _, _ => rfl
  | .block header body footer, w => by
    rw [write, steps, writeAll_eq_run body (w.enter header)]
    exact (Writer.run_append (w.enter header) (stepsAll body) [.leave footer]).symm

theorem writeAll_eq_run : ∀ (pieces : List Layout) (w : Writer),
    writeAll w pieces = w.run (stepsAll pieces)
  | [], _ => rfl
  | piece :: rest, w => by
    rw [writeAll, write_eq_run piece w, writeAll_eq_run rest, stepsAll, Writer.run_append]

end

end Layout

namespace Writer

/-- Balanced steps lead back to their level, and their texts stand as deep as they are nested, a footer at
the level of its header; pieces of code are written in such steps. In any steps the level is that of a walk
that is stopped at the outermost level. The lines are read back just if none of them holds a newline, and so
where neither the texts nor the indentation does. -/
theorem level_and_lines_of_run (w : Writer) (steps : List Step) :
    (Balanced steps →
        (w.run steps).level = w.level ∧
        (w.run steps).lines = w.lines ++ (placed 0 steps).map
          (fun entry => indented w.unit (w.level + entry.1.toNat) entry.2) ∧
        ∀ entry ∈ placed 0 steps, 0 ≤ entry.1) ∧
      (∀ header inner footer, Balanced inner →
        (w.run (.enter header :: (inner ++ [.leave footer]))).lines =
          w.lines ++ indented w.unit w.level header :: ((placed 0 inner).map
            (fun entry => indented w.unit (w.level + 1 + entry.1.toNat) entry.2) ++
            [indented w.unit w.level footer])) ∧
      (∀ pieces, Balanced (Layout.stepsAll pieces) ∧
        Layout.writeAll w pieces = w.run (Layout.stepsAll pieces)) ∧
      (0 ≤ ((w.run steps).level : Int) ∧
        IsGreatest {n : Int | n = w.level + net steps ∨ ∃ last, last <:+ steps ∧ n = net last}
          (w.run steps).level) ∧
      ((w.run steps).ReadsBack ↔ ∀ line ∈ (w.run steps).lines, '\n' ∉ line.toList) ∧
      ((∀ line ∈ w.lines, '\n' ∉ line.toList) → '\n' ∉ w.unit.toList →
        (∀ step ∈ steps, ∀ text ∈ step.texts, '\n' ∉ text.toList) → (w.run steps).ReadsBack) := by
  refine ⟨fun hbalanced => ?_, fun header inner footer hinner => ?_, fun pieces => ?_, ?_,
    readsBack_iff, fun hlines hunit htexts => ?_⟩
  · rw [hbalanced.run_eq]
    exact ⟨rfl, rfl, depth_of_mem_placed (le_refl 0) (hbalanced.staysIn (le_refl 0))⟩
  · exact hinner.lines_block w header footer
  · exact ⟨Layout.balanced_stepsAll pieces, Layout.writeAll_eq_run pieces w⟩
  · exact ⟨Int.natCast_nonneg _, isGreatest_level_run w steps⟩
  · exact readsBack_iff.2 (newline_not_mem_run hlines hunit htexts)

/-- An enumeration in a namespace, after the step out of a level that is not there. -/
def valeSteps : List Step :=
  [.line "", .indent, .enter "export enum Vale \x7b", .separated ["Up", "", "Down = 7"] ",", .leave "\x7d",
    .dedent, .lines ["\x7d", ""]]

theorem balanced_valeSteps : Balanced valeSteps :=
  .text rfl (.deeper (.block (.text rfl .nil) .nil) (.text rfl .nil))

theorem lines_vale : Balanced valeSteps ∧
    (({ unit := "--", level := 1, lines := ["/*"] } : Writer).run valeSteps).level = 1 ∧
    (({ unit := "--", level := 1, lines := ["/*"] } : Writer).run valeSteps).lines =
      ["/*", "", "----export enum Vale \x7b", "------Up,", "------,", "------Down = 7", "----\x7d",
        "--\x7d", ""] ∧
    (({ unit := "--", level := 1, lines := ["/*"] } : Writer).run valeSteps).ReadsBack := by
  obtain ⟨hbalanced, -, -, -, -, hreads⟩ :=
    level_and_lines_of_run { unit := "--", level := 1, lines := ["/*"] } valeSteps
  obtain ⟨hlevel, hlines, -⟩ := hbalanced balanced_valeSteps
  refine ⟨balanced_valeSteps, hlevel, hlines.trans ?_, hreads ?_ ?_ ?_⟩ <;> decide

end Writer

end ScriptBridge
