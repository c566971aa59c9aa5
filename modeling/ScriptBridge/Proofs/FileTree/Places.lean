import ScriptBridge.FileTree
import ScriptBridge.Proofs.Outcome

/-!
# What a path denotes

The place of a path can be told from its parts. It is reached in a tree where the directories that the
path leads through are there, and it stays reached when directories are added.
-/

namespace ScriptBridge.FileTree

/-- Where a part of a path leads from a place. -/
def step (place : Location) (part : String) : Location :=
  if part.isEmpty || part == "." then place
  else if part == ".." then parent place
  else place ++ [part]

def walk (place : Location) (parts : List String) : Location :=
  parts.foldl step place

/-- The place of a path, whether anything is there or not. -/
def placeOf (path : String) : Location :=
  walk (origin path) (pathParts path)

/-- Each part that names a directory names one that is there. -/
def Passes (tree : FileTree) : Location → List String → Prop
  | _, [] => True
  | place, part :: rest =>
    (isDirectoryPart part = false →
      Text.pathSize part ≤ nameLimit ∧ tree.isDirectory (step place part) = true) ∧
      tree.Passes (step place part) rest

/-- The last part of a path. -/
def lastPart (path : String) : String :=
  (pathParts path).getLast?.getD ""

/-- The directories that a path leads through are there, and the path ends in a name. -/
structure Reaches (tree : FileTree) (path : String) : Prop where
  usable : checkPath path = .ok ()
  passes : tree.Passes (origin path) (pathParts path).dropLast
  named : isDirectoryPart (lastPart path) = false
  short : Text.pathSize (lastPart path) ≤ nameLimit

section Places

variable {tree other : FileTree} {path text part : String} {place directory : Location}
  {parts rest : List String}

/-! ### Steps -/

theorem walk_append (place : Location) (parts rest : List String) :
    walk place (parts ++ rest) = walk (walk place parts) rest :=
  List.foldl_append

theorem step_of_named (place : Location) (hnamed : isDirectoryPart part = false) :
    step place part = place ++ [part] := by
  obtain ⟨⟨hempty, hdot⟩, hdots⟩ : (part.isEmpty = false ∧ (part == ".") = false) ∧
      (part == "..") = false := by
    simpa only [isDirectoryPart, Bool.or_eq_false_iff] using hnamed
  simp [step, hempty, hdot, hdots]

theorem isDirectoryPart_empty : isDirectoryPart "" = true := by
  decide

theorem placeIn_eq_ok_iff {name : String} :
    placeIn path directory name = .ok place ↔
      Text.pathSize name ≤ nameLimit ∧ place = directory ++ [name] := by
  unfold placeIn
  split
  · simp only [reduceCtorEq, false_iff, not_and]
    omega
  · simp only [Except.ok.injEq, eq_comm (a := place)]
    constructor
    · exact fun heq => ⟨by omega, heq⟩
    · exact And.right

theorem follow_cons_of_isDirectoryPart (hpart : isDirectoryPart part = true) :
    tree.follow path place (part :: rest) = tree.follow path (step place part) rest := by
  rw [follow]
  by_cases hstays : (part.isEmpty || part == ".") = true
  · simp only [hstays, if_true, step]
  · have hdots : (part == "..") = true := by
      simpa only [isDirectoryPart, Bool.eq_false_iff.2 hstays, Bool.false_or] using hpart
    simp only [step, if_neg hstays, if_pos hdots]

theorem follow_cons_of_named (hnamed : isDirectoryPart part = false) :
    tree.follow path place (part :: rest) = .ok directory ↔
      (Text.pathSize part ≤ nameLimit ∧ tree.isDirectory (step place part) = true) ∧
        tree.follow path (step place part) rest = .ok directory := by
  have hparts : ((part.isEmpty || part == ".") = false) ∧ (part == "..") = false := by
    simpa only [isDirectoryPart, Bool.or_eq_false_iff] using hnamed
  rw [follow, step_of_named place hnamed]
  simp only [hparts.1, hparts.2, Bool.false_eq_true, if_false]
  cases hplace : placeIn path place part with
  | error fault =>
    have hlong : ¬ Text.pathSize part ≤ nameLimit := by
      intro hshort
      rw [placeIn_eq_ok_iff.2 ⟨hshort, rfl⟩] at hplace
      cases hplace
    simp [hlong]
  | ok next =>
    obtain ⟨hshort, rfl⟩ := placeIn_eq_ok_iff.1 hplace
    dsimp only
    cases tree.isDirectory (place ++ [part]) with
    | true => simp [hshort]
    | false =>
      simp only [Bool.false_eq_true, if_false, and_false, false_and, iff_false]
      split <;> simp

theorem follow_eq_ok_iff :
    tree.follow path place parts = .ok directory ↔
      tree.Passes place parts ∧ directory = walk place parts := by
  induction parts generalizing place with
  | nil => simp [follow, Passes, walk, eq_comm]
  | cons part rest ih =>
    cases hpart : isDirectoryPart part with
    | true =>
      rw [follow_cons_of_isDirectoryPart hpart, ih]
      simp [Passes, hpart, walk]
    | false =>
      rw [follow_cons_of_named hpart, ih]
      simp [Passes, hpart, walk, and_assoc]

theorem passes_append :
    tree.Passes place (parts ++ rest) ↔ tree.Passes place parts ∧ tree.Passes (walk place parts) rest := by
  induction parts generalizing place with
  | nil => simp [Passes, walk]
  | cons part parts ih =>
    rw [List.cons_append, Passes, Passes, ih, and_assoc]
    rfl

/-- More directories let no path down that they let through before. -/
theorem Passes.mono (hpasses : tree.Passes place parts)
    (hkept : ∀ place, tree.isDirectory place = true → other.isDirectory place = true) :
    other.Passes place parts := by
  induction parts generalizing place with
  | nil => trivial
  | cons part parts ih =>
    obtain ⟨hpart, hrest⟩ := hpasses
    exact ⟨fun hnamed => ⟨(hpart hnamed).1, hkept _ (hpart hnamed).2⟩, ih hrest⟩

theorem Reaches.mono (hreaches : tree.Reaches path)
    (hkept : ∀ place, tree.isDirectory place = true → other.isDirectory place = true) :
    other.Reaches path :=
  { hreaches with passes := hreaches.passes.mono hkept }

/-! ### Files -/

theorem pathParts_ne_nil (path : String) : pathParts path ≠ [] := by
  simp [pathParts, Text.splitAtChar_ne_nil]

theorem dropLast_append_lastPart (path : String) :
    (pathParts path).dropLast ++ [lastPart path] = pathParts path := by
  unfold lastPart
  rw [List.getLast?_eq_some_getLast (pathParts_ne_nil path), Option.getD_some]
  exact List.dropLast_append_getLast (pathParts_ne_nil path)

theorem placeOf_eq (hnamed : isDirectoryPart (lastPart path) = false) :
    placeOf path = walk (origin path) (pathParts path).dropLast ++ [lastPart path] := by
  calc placeOf path
      = walk (origin path) ((pathParts path).dropLast ++ [lastPart path]) := by
        rw [dropLast_append_lastPart, placeOf]
    _ = step (walk (origin path) (pathParts path).dropLast) (lastPart path) := by
        rw [walk_append]
        rfl
    _ = _ := step_of_named _ hnamed

theorem enter_eq_ok_iff {last : String} :
    tree.enter path = .ok (directory, last) ↔
      checkPath path = .ok () ∧ tree.Passes (origin path) (pathParts path).dropLast ∧
        directory = walk (origin path) (pathParts path).dropLast ∧ last = lastPart path := by
  simp only [enter, Outcome.bind_eq_ok_iff, follow_eq_ok_iff]
  constructor
  · rintro ⟨_, husable, _, ⟨hpasses, rfl⟩, hresult⟩
    cases hresult
    exact ⟨husable, hpasses, rfl, rfl⟩
  · rintro ⟨husable, hpasses, rfl, rfl⟩
    exact ⟨_, husable, _, ⟨hpasses, rfl⟩, rfl⟩

/-- A file can be written at the place of a path that is reached, unless a directory is there. -/
theorem locate_eq_ok_iff :
    tree.locate path = .ok place ↔
      tree.Reaches path ∧ tree.isDirectory (placeOf path) = false ∧ place = placeOf path := by
  unfold locate
  rw [Outcome.bind_eq_ok_iff]
  constructor
  · rintro ⟨⟨directory, last⟩, henter, hplace⟩
    obtain ⟨husable, hpasses, rfl, rfl⟩ := enter_eq_ok_iff.1 henter
    simp only at hplace
    split at hplace
    · cases hplace
    · rename_i hnamed
      obtain ⟨found, hfound, hplace⟩ := Outcome.bind_eq_ok_iff.1 hplace
      obtain ⟨hshort, rfl⟩ := placeIn_eq_ok_iff.1 hfound
      have hnamed := Bool.eq_false_iff.2 hnamed
      rw [← placeOf_eq hnamed] at hplace
      split at hplace
      · cases hplace
      · rename_i hfree
        cases hplace
        exact ⟨⟨husable, hpasses, hnamed, hshort⟩, Bool.eq_false_iff.2 hfree, rfl⟩
  · rintro ⟨hreaches, hfree, rfl⟩
    refine ⟨_, enter_eq_ok_iff.2 ⟨hreaches.usable, hreaches.passes, rfl, rfl⟩, ?_⟩
    simp only [hreaches.named, Bool.false_eq_true, if_false]
    refine Outcome.bind_eq_ok_iff.2 ⟨_, placeIn_eq_ok_iff.2 ⟨hreaches.short, rfl⟩, ?_⟩
    rw [← placeOf_eq hreaches.named, hfree]
    rfl

/-- A path denotes a file that is there where one can be written. -/
theorem find_eq_ok_some_iff :
    tree.find path = .ok (place, some text) ↔
      tree.locate path = .ok place ∧ tree.textAt? place = some text := by
  unfold find locate
  cases tree.enter path with
  | error fault => simp [bind, Except.bind]
  | ok entered =>
    obtain ⟨directory, last⟩ := entered
    simp only [bind, Except.bind]
    split
    · cases tree.follow path directory [last] <;> simp [pure, Except.pure]
    · cases placeIn path directory last with
      | error fault => simp
      | ok found =>
        dsimp only
        split
        · simp [pure, Except.pure]
        · cases htext : tree.textAt? found with
          | none =>
            simp only [reduceCtorEq, pure, Except.pure, Except.ok.injEq, false_iff, not_and]
            rintro rfl
            simp [htext]
          | some there =>
            simp only [pure, Except.pure, Except.ok.injEq, Prod.mk.injEq, Option.some.injEq]
            constructor
            · rintro ⟨rfl, rfl⟩
              exact ⟨rfl, htext⟩
            · rintro ⟨rfl, hthere⟩
              exact ⟨rfl, Option.some.inj (htext.symm.trans hthere)⟩

theorem read_eq_ok_iff :
    tree.read path = .ok text ↔
      tree.locate path = .ok (placeOf path) ∧ tree.textAt? (placeOf path) = some text := by
  have hread : tree.read path = .ok text ↔ ∃ place, tree.find path = .ok (place, some text) := by
    unfold read
    rw [Outcome.bind_eq_ok_iff]
    constructor
    · rintro ⟨⟨place, found⟩, hfind, hfound⟩
      cases found with
      | none => cases hfound
      | some there =>
        cases hfound
        exact ⟨place, hfind⟩
    · rintro ⟨place, hfind⟩
      exact ⟨_, hfind, rfl⟩
  simp only [hread, find_eq_ok_some_iff]
  constructor
  · rintro ⟨place, hlocate, htext⟩
    obtain ⟨-, -, rfl⟩ := locate_eq_ok_iff.1 hlocate
    exact ⟨hlocate, htext⟩
  · exact fun hplace => ⟨_, hplace⟩

end Places

end ScriptBridge.FileTree
