import ScriptBridge.Surface.Discovery

/-!
# The first declaration of a key

Of the declarations of one key, the one that comes first is the one that is found.
-/

namespace ScriptBridge

theorem Value.isSameKey_text (v : Value) (text : String) :
    v.isSameKey (.text text) = (v == .text text) := by
  have htext : (Value.text text).wholeNumber? = none := rfl
  rw [isSameKey, htext]
  cases hnumber : v.wholeNumber? with
  | none => rfl
  | some n =>
    have hne : v ≠ .text text := by
      rintro rfl
      cases hnumber
    exact (beq_false_of_ne hne).symm

namespace Registry

/-- The registry with one more declaration, unless its key is taken. -/
def declare (registry : Registry) (decl : TypeDecl) : Registry :=
  if registry.declares decl.key then registry else registry.add decl

/-- What some modules declare: of the declarations of one key only the first counts. -/
def ofModules (modules : List Descriptor) : Registry :=
  (modules.flatMap (·.types)).foldl declare {}

theorem declares_text (registry : Registry) (key : String) :
    registry.declares (.text key) = (registry.find? key).isSome := by
  unfold declares find?
  simp only [Value.isSameKey_text, List.isSome_find?]

theorem find?_declare (registry : Registry) (decl : TypeDecl) (key : String) :
    (registry.declare decl).find? key =
      (registry.find? key).or (if decl.key == .text key then some decl else none) := by
  have hadd : (registry.add decl).find? key =
      (registry.find? key).or (if decl.key == .text key then some decl else none) := by
    simp only [find?, add, List.find?_append, List.find?_singleton]
  unfold declare
  split
  · rename_i hdeclares
    by_cases hkey : decl.key = .text key
    · rw [hkey, declares_text, Option.isSome_iff_exists] at hdeclares
      obtain ⟨first, hfirst⟩ := hdeclares
      rw [hfirst, Option.some_or]
    · rw [if_neg (by simpa using hkey), Option.or_none]
  · exact hadd

theorem find?_foldl_declare (decls : List TypeDecl) (registry : Registry) (key : String) :
    (decls.foldl declare registry).find? key =
      (registry.find? key).or (decls.find? (·.key == .text key)) := by
  induction decls generalizing registry with
  | nil => simp
  | cons decl decls ih =>
    rw [List.foldl_cons, ih, find?_declare, Option.or_assoc, List.find?_cons]
    cases decl.key == .text key <;> rfl

theorem find?_ofModules (modules : List Descriptor) (key : String) :
    (ofModules modules).find? key = (modules.flatMap (·.types)).find? (·.key == .text key) := by
  rw [ofModules, find?_foldl_declare]
  rfl

end Registry

/-! ### What declaring the types of modules leaves -/

theorem fst_declareTypes (assembly : Value) (decls : List TypeDecl) (registry : Registry)
    (found : Discovery) :
    (declareTypes assembly decls (registry, found)).1 = decls.foldl Registry.declare registry := by
  induction decls generalizing registry found with
  | nil => rfl
  | cons decl decls ih =>
    rw [declareTypes, List.foldl_cons, Registry.declare]
    split
    · exact ih registry (found.warn _)
    · exact ih (registry.add decl) found

theorem fst_foldl_declareTypes (modules : List Descriptor) (registry : Registry)
    (found : Discovery) :
    (declareModules modules (registry, found)).1 =
      (modules.flatMap (·.types)).foldl Registry.declare registry := by
  unfold declareModules
  induction modules generalizing registry found with
  | nil => rfl
  | cons module modules ih =>
    rw [List.foldl_cons, List.flatMap_cons, List.foldl_append,
      ← fst_declareTypes module.assembly module.types registry found]
    exact ih _ _

theorem fst_declareModules (modules : List Descriptor) (found : Discovery) :
    (declareModules modules ({}, found)).1 = Registry.ofModules modules :=
  fst_foldl_declareTypes modules {} found

/-- Declaring types adds warnings, and nothing else to what has been found. -/
theorem snd_declareTypes (assembly : Value) (decls : List TypeDecl) (registry : Registry)
    (found : Discovery) :
    ∃ warnings log,
      (declareTypes assembly decls (registry, found)).2 = { found with warnings, log } := by
  induction decls generalizing registry found with
  | nil => exact ⟨found.warnings, found.log, rfl⟩
  | cons decl decls ih =>
    rw [declareTypes]
    split
    · obtain ⟨warnings, log, hrest⟩ := ih registry (found.warn _)
      exact ⟨warnings, log, hrest⟩
    · exact ih (registry.add decl) found

theorem snd_declareModules (modules : List Descriptor) (registry : Registry) (found : Discovery) :
    ∃ warnings log, (declareModules modules (registry, found)).2 = { found with warnings, log } := by
  unfold declareModules
  induction modules generalizing registry found with
  | nil => exact ⟨found.warnings, found.log, rfl⟩
  | cons module modules ih =>
    rw [List.foldl_cons]
    obtain ⟨warnings, log, hfirst⟩ := snd_declareTypes module.assembly module.types registry found
    obtain ⟨warnings', log', hrest⟩ :=
      ih (declareTypes module.assembly module.types (registry, found)).1
        (declareTypes module.assembly module.types (registry, found)).2
    exact ⟨warnings', log', by rw [hrest, hfirst]⟩

end ScriptBridge
