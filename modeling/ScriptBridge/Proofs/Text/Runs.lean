import Mathlib.Data.List.TakeWhile
import ScriptBridge.Text.Blank

/-!
# Runs of characters

The characters of a class at the start of a text or at its end, taken as far as they go.
-/

namespace ScriptBridge.Text

variable {p : Char → Bool} {inner rest : List Char}

theorem dropWhile_append_of_stop (hinner : ∀ c ∈ inner, p c = true)
    (hstop : ∀ c ∈ rest.head?, p c = false) : (inner ++ rest).dropWhile p = rest := by
  rw [List.dropWhile_append_of_pos hinner]
  cases rest with
  | nil => rfl
  | cons c rest => rw [List.dropWhile_cons, hstop c rfl, if_neg Bool.false_ne_true]

theorem takeWhile_append_of_stop (hinner : ∀ c ∈ inner, p c = true)
    (hstop : ∀ c ∈ rest.head?, p c = false) : (inner ++ rest).takeWhile p = inner := by
  rw [List.takeWhile_append_of_pos hinner]
  cases rest with
  | nil => exact List.append_nil inner
  | cons c rest =>
    rw [List.takeWhile_cons, hstop c rfl, if_neg Bool.false_ne_true, List.append_nil]

theorem stop_dropWhile (text : List Char) : ∀ c ∈ (text.dropWhile p).head?, p c = false := by
  intro c hhead
  have hnot := List.head?_dropWhile_not p text
  rw [hhead] at hnot
  simpa using hnot

/-- A text without the characters of a class at its ends is what stands between two runs of them, and
does not begin or end with one. -/
theorem trimWhile_eq_iff {text core : List Char} :
    trimWhile p text = core ↔
      ∃ first last, text = first ++ core ++ last ∧ (∀ c ∈ first, p c = true) ∧
        (∀ c ∈ last, p c = true) ∧ (∀ c ∈ core.head?, p c = false) ∧
          ∀ c ∈ core.getLast?, p c = false := by
  constructor
  · rintro rfl
    obtain ⟨last, hlast, hbody⟩ : ∃ last, (∀ c ∈ last, p c = true) ∧
        text.dropWhile p = trimWhile p text ++ last := by
      refine ⟨((text.dropWhile p).reverse.takeWhile p).reverse,
        fun c hc => List.mem_takeWhile_imp (List.mem_reverse.1 hc), ?_⟩
      rw [trimWhile, dropEndWhile, ← List.reverse_append, List.takeWhile_append_dropWhile,
        List.reverse_reverse]
    refine ⟨text.takeWhile p, last, ?_, fun c hc => List.mem_takeWhile_imp hc, hlast, ?_, ?_⟩
    · rw [List.append_assoc, ← hbody, List.takeWhile_append_dropWhile]
    · intro c hhead
      refine stop_dropWhile text c ?_
      rw [hbody, List.head?_append, hhead]
      rfl
    · intro c hlast
      rw [trimWhile, dropEndWhile, List.getLast?_reverse] at hlast
      exact stop_dropWhile _ c hlast
  · rintro ⟨first, last, rfl, hfirst, hlast, hhead, hend⟩
    cases core with
    | nil =>
      have hall : ∀ c ∈ first ++ [] ++ last, p c = true := by
        intro c hc
        rw [List.append_nil, List.mem_append] at hc
        exact hc.elim (hfirst c) (hlast c)
      rw [trimWhile, List.dropWhile_eq_nil_iff.2 hall]
      rfl
    | cons c rest =>
      rw [trimWhile, List.append_assoc, dropWhile_append_of_stop hfirst (by simpa using hhead),
        dropEndWhile, List.reverse_append,
        dropWhile_append_of_stop (fun d hd => hlast d (List.mem_reverse.1 hd))
          (by rwa [List.head?_reverse]),
        List.reverse_reverse]

end ScriptBridge.Text
