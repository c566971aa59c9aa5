import ScriptBridge.Text.Case

/-!
# Lower case

The lower case of a character is the character itself or no capital. So the capitals that a lowered text
still begins with are those that have no lower case, unless lowering has left the whole text as it was.
-/

namespace ScriptBridge.Text

/-! ### Runs without a common code point -/

namespace CodeRun

variable {first second : CodeRun} {code : Nat}

/-- Whether two runs are seen to have no code point in common: they lie apart, one of them is a single code
point between those of the other, or they go by the same step from different remainders. -/
def apart (first second : CodeRun) : Bool :=
  first.last.blt second.first || (second.last.blt first.first ||
    (first.first == first.last && !second.contains first.first ||
      (second.first == second.last && !first.contains second.first ||
        first.step == second.step && first.first % first.step != second.first % second.step)))

theorem contains_iff {run : CodeRun} :
    run.contains code = true ↔
      run.first ≤ code ∧ code ≤ run.last ∧ (code - run.first) % run.step = 0 := by
  simp [contains, and_assoc]

theorem mod_step_of_contains {run : CodeRun} (hcontains : run.contains code = true) :
    code % run.step = run.first % run.step := by
  obtain ⟨hfirst, -, hstep⟩ := contains_iff.1 hcontains
  obtain ⟨count, hcount⟩ := Nat.dvd_of_mod_eq_zero hstep
  have hcode : code = run.first + run.step * count := by omega
  rw [hcode, Nat.add_mul_mod_self_left]

theorem contains_eq_false_of_apart (hapart : first.apart second = true)
    (hcontains : first.contains code = true) : second.contains code = false := by
  refine Bool.eq_false_iff.2 fun hcommon => ?_
  obtain ⟨hfirst, hlast, -⟩ := contains_iff.1 hcontains
  obtain ⟨hfirst', hlast', -⟩ := contains_iff.1 hcommon
  simp only [apart, Bool.or_eq_true, Bool.and_eq_true, Nat.blt_eq, beq_iff_eq, Bool.not_eq_true',
    bne_iff_ne] at hapart
  rcases hapart with hbefore | hafter | ⟨hsingle, hnot⟩ | ⟨hsingle, hnot⟩ | ⟨hstep, hmod⟩
  · omega
  · omega
  · rw [show first.first = code by omega, hcommon] at hnot
    cases hnot
  · rw [show second.first = code by omega, hcontains] at hnot
    cases hnot
  · rw [← mod_step_of_contains hcontains, ← mod_step_of_contains hcommon, hstep] at hmod
    exact hmod rfl

end CodeRun

/-- The run that the code points of an entry belong to. -/
def ShiftRun.target (entry : ShiftRun) : CodeRun where
  first := (entry.run.first + entry.shift).toNat
  last := (entry.run.last + entry.shift).toNat
  step := entry.run.step

theorem ShiftRun.contains_target {entry : ShiftRun} {code : Nat}
    (hfirst : 0 ≤ entry.run.first + entry.shift) (hcontains : entry.run.contains code = true) :
    entry.target.contains (code + entry.shift).toNat = true := by
  obtain ⟨hlow, hhigh, hstep⟩ := CodeRun.contains_iff.1 hcontains
  refine CodeRun.contains_iff.2 ⟨?_, ?_, ?_⟩
  · exact Int.toNat_le_toNat (by omega)
  · exact Int.toNat_le_toNat (by omega)
  · have hdistance : (code + entry.shift).toNat - (entry.run.first + entry.shift).toNat =
        code - entry.run.first := by omega
    exact hdistance ▸ hstep

/-! ### Single characters -/

/-- No lower case letter that the table gives is in a run of capitals. -/
theorem targets_apart : (loweringRuns.all fun entry =>
    decide (0 ≤ entry.run.first + entry.shift) && capitalRuns.all entry.target.apart) = true := by
  decide +kernel

theorem isCapital_ofNat {code : Nat} (hcode : ∀ run ∈ capitalRuns, run.contains code = false) :
    isCapital (Char.ofNat code) = false := by
  by_cases hvalid : code.isValidChar
  · have hchar : Char.ofNat code = Char.ofNatAux code hvalid := dif_pos hvalid
    rw [hchar]
    exact List.any_eq_false.2 fun run hrun => Bool.eq_false_iff.1 (hcode run hrun)
  · -- The code belongs to no character, and what stands in for one is no capital either.
    have hchar : Char.ofNat code = '\u0000' := dif_neg hvalid
    rw [hchar]
    decide +kernel

theorem lowerChar_eq_self_or (c : Char) : lowerChar c = c ∨ isCapital (lowerChar c) = false := by
  rw [lowerChar]
  split
  · exact .inr (by decide +kernel)
  · rw [ShiftRun.apply]
    split
    case h_1 entry hentry =>
      obtain ⟨hfirst, hapart⟩ := Bool.and_eq_true_iff.1 <|
        List.all_eq_true.1 targets_apart entry (List.mem_of_find?_eq_some hentry)
      have hcode := List.find?_some hentry
      have htarget := ShiftRun.contains_target (of_decide_eq_true hfirst) hcode
      refine .inr (isCapital_ofNat fun run hrun => ?_)
      exact CodeRun.contains_eq_false_of_apart (List.all_eq_true.1 hapart run hrun) htarget
    case h_2 => exact .inl rfl

/-! ### Texts -/

/-- The character is its own lower case, whatever stands around it. -/
def IsLowered (c : Char) : Prop :=
  ∀ before rest, lowerFrom before (c :: rest) = c :: lowerFrom (c :: before) rest

/-- What a character is lowered to begins with no capital, unless it is the character itself wherever it
stands. Only a sigma depends on what is around it, and only the dotted capital I becomes two characters. -/
theorem isLowered_or_lowerFrom_cons (before : List Char) (c : Char) (rest : List Char) :
    IsLowered c ∨ ∃ lowered more,
      lowerFrom before (c :: rest) = lowered :: more ∧ isCapital lowered = false := by
  by_cases hsigma : c = 'Σ'
  · subst hsigma
    refine .inr ?_
    rw [lowerFrom]
    simp only [beq_self_eq_true, if_true]
    split
    · exact ⟨'ς', _, rfl, by decide +kernel⟩
    · exact ⟨'σ', _, rfl, by decide +kernel⟩
  by_cases hdotted : c = '\u0130'
  · subst hdotted
    exact .inr ⟨'i', _, rfl, by decide +kernel⟩
  have hplain : ∀ before rest,
      lowerFrom before (c :: rest) = lowerChar c :: lowerFrom (c :: before) rest := by
    intro before rest
    simp [lowerFrom, hsigma, hdotted]
  rcases lowerChar_eq_self_or c with hself | hsmall
  · exact .inl fun before rest => by rw [hplain, hself]
  · exact .inr ⟨_, _, hplain before rest, hsmall⟩

theorem lowerFrom_eq_self {text : List Char} (htext : ∀ c ∈ text, IsLowered c) (before : List Char) :
    lowerFrom before text = text := by
  induction text generalizing before with
  | nil => rfl
  | cons c text ih =>
    obtain ⟨hc, htext⟩ := List.forall_mem_cons.1 htext
    rw [hc, ih htext]

/-- Lowering leaves a text as it is, or the capitals that it then starts with are their own lower case,
whatever follows it: the first character that is changed ends them. -/
theorem lowerFrom_eq_self_or (before text rest : List Char) :
    lowerFrom before text = text ∨
      ∀ c ∈ (lowerFrom before text ++ rest).takeWhile isCapital, IsLowered c := by
  induction text generalizing before with
  | nil => exact .inl rfl
  | cons c text ih =>
    rcases isLowered_or_lowerFrom_cons before c text with hself | ⟨lowered, more, hlowered, hsmall⟩
    · rw [hself]
      refine (ih (c :: before)).imp (congrArg (c :: ·)) fun hcapitals => ?_
      rw [List.cons_append, List.takeWhile_cons]
      split
      · exact List.forall_mem_cons.2 ⟨hself, hcapitals⟩
      · exact List.forall_mem_nil _
    · refine .inr ?_
      rw [hlowered, List.cons_append, List.takeWhile_cons, hsmall]
      exact List.forall_mem_nil _

end ScriptBridge.Text
