import Mathlib.Data.List.Forall2

/-!
Operations that may fail, carried out on the elements of a list one after another.
-/

namespace ScriptBridge.Outcome

variable {ε α β : Type} {f : α → Except ε β} {xs : List α} {ys : List β}

theorem bind_eq_ok_iff {γ : Type} {x : Except ε α} {g : α → Except ε γ} {c : γ} :
    (x >>= g) = .ok c ↔ ∃ a, x = .ok a ∧ g a = .ok c := by
  cases x <;> simp [bind, Except.bind]

theorem bind_eq_error_iff {γ : Type} {x : Except ε α} {g : α → Except ε γ} {e : ε} :
    (x >>= g) = .error e ↔ x = .error e ∨ ∃ a, x = .ok a ∧ g a = .error e := by
  cases x <;> simp [bind, Except.bind]

theorem map_eq_ok_iff {g : α → β} {x : Except ε α} {b : β} :
    x.map g = .ok b ↔ ∃ a, x = .ok a ∧ g a = b := by
  cases x <;> simp [Except.map]

theorem exists_map_eq_ok_iff {g : α → β} {x : Except ε α} :
    (∃ b, x.map g = .ok b) ↔ ∃ a, x = .ok a := by
  cases x <;> simp [Except.map]

theorem map_eq_error_iff {g : α → β} {x : Except ε α} {e : ε} :
    x.map g = .error e ↔ x = .error e := by
  cases x <;> simp [Except.map]

theorem mapError_eq_ok_iff {δ : Type} {g : ε → δ} {x : Except ε α} {a : α} :
    x.mapError g = .ok a ↔ x = .ok a := by
  cases x <;> simp [Except.mapError]

theorem exists_bind_eq_ok {γ : Type} {x : Except ε α} {g : α → Except ε γ} (hx : ∃ a, x = .ok a)
    (hg : ∀ a, ∃ c, g a = .ok c) : ∃ c, (x >>= g) = .ok c := by
  obtain ⟨a, ha⟩ := hx
  obtain ⟨c, hc⟩ := hg a
  exact ⟨c, bind_eq_ok_iff.2 ⟨a, ha, hc⟩⟩

/-- All of them succeed, each with the result at its place. -/
theorem mapM_eq_ok_iff :
    xs.mapM f = .ok ys ↔ List.Forall₂ (fun x y => f x = .ok y) xs ys := by
  induction xs generalizing ys with
  | nil => cases ys <;> simp [pure, Except.pure]
  | cons x xs ih =>
    rw [List.mapM_cons, bind_eq_ok_iff]
    constructor
    · rintro ⟨y, hy, hrest⟩
      rw [bind_eq_ok_iff] at hrest
      obtain ⟨others, hothers, hys⟩ := hrest
      cases hys
      exact .cons hy (ih.1 hothers)
    · intro hall
      cases hall with
      | cons hy hrest => exact ⟨_, hy, by rw [ih.2 hrest]; rfl⟩

/-- If each element has one that it is related to, there is a list of these. -/
theorem exists_forall₂ {R : α → β → Prop} (hall : ∀ x ∈ xs, ∃ y, R x y) :
    ∃ ys, List.Forall₂ R xs ys := by
  induction xs with
  | nil => exact ⟨[], .nil⟩
  | cons x xs ih =>
    obtain ⟨y, hy⟩ := hall x List.mem_cons_self
    obtain ⟨ys, hys⟩ := ih fun other hmem => hall other (List.mem_cons_of_mem _ hmem)
    exact ⟨y :: ys, .cons hy hys⟩

/-- All of them succeed if each does. -/
theorem exists_mapM_eq_ok (hall : ∀ x ∈ xs, ∃ y, f x = .ok y) : ∃ ys, xs.mapM f = .ok ys := by
  obtain ⟨ys, hys⟩ := exists_forall₂ hall
  exact ⟨ys, mapM_eq_ok_iff.2 hys⟩

/-- If one of them fails, the failure is that of an element. -/
theorem exists_of_mapM_eq_error {e : ε} (hmap : xs.mapM f = .error e) : ∃ x ∈ xs, f x = .error e := by
  induction xs with
  | nil => cases hmap
  | cons x xs ih =>
    rw [List.mapM_cons] at hmap
    cases hx : f x with
    | error failure =>
      rw [hx] at hmap
      cases hmap
      exact ⟨x, List.mem_cons_self, hx⟩
    | ok y =>
      rw [hx] at hmap
      cases hrest : xs.mapM f with
      | ok others =>
        rw [hrest] at hmap
        cases hmap
      | error failure =>
        rw [hrest] at hmap
        cases hmap
        obtain ⟨other, hother, hfails⟩ := ih hrest
        exact ⟨other, List.mem_cons_of_mem _ hother, hfails⟩

/-- Of two lists that are related one by one, each element of the second has its own in the first. -/
theorem exists_left_of_forall₂ {R : α → β → Prop} (hall : List.Forall₂ R xs ys) {y : β}
    (hmem : y ∈ ys) : ∃ x ∈ xs, R x y := by
  induction hall with
  | nil => cases hmem
  | cons hhead _ ih =>
    rcases List.mem_cons.1 hmem with rfl | hmem
    · exact ⟨_, List.mem_cons_self, hhead⟩
    · obtain ⟨x, hx, hrelated⟩ := ih hmem
      exact ⟨x, List.mem_cons_of_mem _ hx, hrelated⟩

theorem exists_of_mem_results (hmap : xs.mapM f = .ok ys) {y : β} (hmem : y ∈ ys) :
    ∃ x ∈ xs, f x = .ok y :=
  exists_left_of_forall₂ (mapM_eq_ok_iff.1 hmap) hmem

theorem exists_result_of_mem (hmap : xs.mapM f = .ok ys) {x : α} (hmem : x ∈ xs) :
    ∃ y ∈ ys, f x = .ok y :=
  exists_left_of_forall₂ (mapM_eq_ok_iff.1 hmap).flip hmem

/-- What is read off the elements and off their results is alike if it is alike one by one. -/
theorem map_eq_map_of_mapM {γ : Type} {g : α → γ} {h : β → γ} (hmap : xs.mapM f = .ok ys)
    (hagree : ∀ x ∈ xs, ∀ y, f x = .ok y → g x = h y) : xs.map g = ys.map h := by
  have hall := mapM_eq_ok_iff.1 hmap
  clear hmap
  induction hall with
  | nil => rfl
  | cons hhead _ ih =>
    have hrest := ih fun x hx => hagree x (List.mem_cons_of_mem _ hx)
    rw [List.map_cons, List.map_cons, hagree _ List.mem_cons_self _ hhead, hrest]

theorem map_eq_of_mapM (hmap : xs.mapM f = .ok ys) : xs.map f = ys.map .ok :=
  map_eq_map_of_mapM hmap fun _ _ _ hx => hx

/-- Lists gathered from the elements and from their results are one list if they agree one by one. -/
theorem flatMap_eq_of_mapM {γ : Type} {g : α → List γ} {h : β → List γ} (hmap : xs.mapM f = .ok ys)
    (hagree : ∀ x y, f x = .ok y → g x = h y) : xs.flatMap g = ys.flatMap h := by
  have hall := mapM_eq_ok_iff.1 hmap
  clear hmap
  induction hall with
  | nil => rfl
  | cons hhead _ ih => rw [List.flatMap_cons, List.flatMap_cons, hagree _ _ hhead, ih]

/-- Elements may be left out with their results. -/
theorem mapM_filter {keep : α → Bool} {keepResult : β → Bool} (hmap : xs.mapM f = .ok ys)
    (hagree : ∀ x y, f x = .ok y → keepResult y = keep x) :
    (xs.filter keep).mapM f = .ok (ys.filter keepResult) := by
  have hall := mapM_eq_ok_iff.1 hmap
  clear hmap
  induction hall with
  | nil => rfl
  | @cons x y _ _ hhead _ ih =>
    rw [List.filter_cons, List.filter_cons, hagree x y hhead]
    by_cases hkeep : keep x = true
    · rw [if_pos hkeep, if_pos hkeep]
      exact mapM_eq_ok_iff.2 (.cons hhead (mapM_eq_ok_iff.1 ih))
    · rw [if_neg hkeep, if_neg hkeep]
      exact ih

/-- What each step of a fold keeps, a fold that succeeds keeps. -/
theorem foldlM_keeps {P : β → Prop} {step : β → α → Except ε β}
    (hstep : ∀ before x after, P before → step before x = .ok after → P after) {before after : β}
    (hbefore : P before) (hfold : xs.foldlM step before = .ok after) : P after := by
  induction xs generalizing before with
  | nil =>
    cases hfold
    exact hbefore
  | cons x xs ih =>
    rw [List.foldlM_cons, bind_eq_ok_iff] at hfold
    obtain ⟨middle, hmiddle, hrest⟩ := hfold
    exact ih (hstep before x middle hbefore hmiddle) hrest

/-! ### Failures -/

/-- What an operation fails with, if it fails. -/
def fault? {ε α : Type} : Except ε α → Option ε
  | .ok _ => none
  | .error e => some e

theorem fault?_eq_none_iff {x : Except ε α} : fault? x = none ↔ ∃ a, x = .ok a := by
  cases x <;> simp [fault?]

theorem fault?_map (g : α → β) (x : Except ε α) : fault? (x.map g) = fault? x := by
  cases x <;> rfl

/-- What follows fails as it does whatever the result is, if there is one. -/
theorem fault?_bind_of_made {γ : Type} {x : Except ε α} {g : α → Except ε γ} {rest : Option ε}
    (hrest : ∀ a, x = .ok a → fault? (g a) = rest) : fault? (x >>= g) = (fault? x).or rest := by
  cases x with
  | error e => rfl
  | ok a => exact hrest a rfl

theorem fault?_bind {γ : Type} {x : Except ε α} {g : α → Except ε γ} {rest : Option ε}
    (hrest : ∀ a, fault? (g a) = rest) : fault? (x >>= g) = (fault? x).or rest :=
  fault?_bind_of_made fun a _ => hrest a

/-- What follows does not fail. -/
theorem fault?_bind_of_ok {γ : Type} {x : Except ε α} {g : α → Except ε γ}
    (hrest : ∀ a, fault? (g a) = none) : fault? (x >>= g) = fault? x := by
  rw [fault?_bind hrest, Option.or_none]

/-- Of the elements the first to fail is the one that counts. Each is at fault as the first of its own
causes is. -/
theorem fault?_mapM {γ : Type} {g : α → List γ} {cause : γ → Option ε}
    (hcauses : ∀ x ∈ xs, fault? (f x) = (g x).findSome? cause) :
    fault? (xs.mapM f) = (xs.flatMap g).findSome? cause := by
  induction xs with
  | nil => rfl
  | cons x xs ih =>
    obtain ⟨hfirst, hrest⟩ := List.forall_mem_cons.1 hcauses
    rw [List.mapM_cons, fault?_bind fun y => (fault?_bind_of_ok fun ys => rfl).trans (ih hrest),
      hfirst, List.flatMap_cons, List.findSome?_append]

/-! ### Lists of results -/

variable {γ : Type} {f : α → Except ε (List γ)} {yss : List (List γ)}

theorem flatten_eq_nil_iff_of_mapM (hmap : xs.mapM f = .ok yss)
    (hne : ∀ x ∈ xs, ∀ ys, f x = .ok ys → ys ≠ []) : yss.flatten = [] ↔ xs = [] := by
  constructor
  · intro hflatten
    refine List.eq_nil_iff_forall_not_mem.2 fun x hx => ?_
    obtain ⟨ys, hys, hfx⟩ := exists_result_of_mem hmap hx
    exact hne x hx ys hfx (List.flatten_eq_nil_iff.1 hflatten ys hys)
  · rintro rfl
    cases hmap
    rfl

/-- Elements that give nothing may be left out. -/
theorem exists_mapM_filter {keep : α → Bool} (hmap : xs.mapM f = .ok yss)
    (hdropped : ∀ x, keep x = false → f x = .ok []) :
    ∃ kept, (xs.filter keep).mapM f = .ok kept ∧ kept.flatten = yss.flatten := by
  have hall := mapM_eq_ok_iff.1 hmap
  clear hmap
  induction hall with
  | nil => exact ⟨[], rfl, rfl⟩
  | @cons x ys xs yss hhead _ ih =>
    obtain ⟨kept, hkept, hflatten⟩ := ih
    rw [List.filter_cons]
    by_cases hkeep : keep x = true
    · refine ⟨ys :: kept, ?_, by rw [List.flatten_cons, List.flatten_cons, hflatten]⟩
      rw [if_pos hkeep]
      exact mapM_eq_ok_iff.2 (.cons hhead (mapM_eq_ok_iff.1 hkept))
    · have hnil : ys = [] := by
        rw [hdropped x (by simpa using hkeep)] at hhead
        exact (Except.ok.inj hhead).symm
      refine ⟨kept, by rwa [if_neg hkeep], ?_⟩
      rw [hnil, hflatten, List.flatten_cons, List.nil_append]

end ScriptBridge.Outcome
