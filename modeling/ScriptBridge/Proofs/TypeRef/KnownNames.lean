import Mathlib
import ScriptBridge.TypeRef.Known

/-!
# Names of known types

A name stands for at most one known type, so it does not matter where it is looked for first.
-/

namespace ScriptBridge.Known

theorem mem_of_lookup_eq_some {α : Type} {table : List (String × α)} {key : String} {value : α}
    (hlookup : table.lookup key = some value) : (key, value) ∈ table := by
  obtain ⟨before, after, htable, -⟩ := List.lookup_eq_some_iff.1 hlookup
  rw [htable]
  exact List.mem_append_right _ List.mem_cons_self

/-- A name stands for the known type of a full name: as an alias, as that full name, or without a
namespace that need not be written. -/
inductive StandsFor (name : String) : String → Prop
  | keyword {full : String} : (name, full) ∈ aliases → StandsFor name full
  | full : name ∈ fullNames → StandsFor name name
  | short {space : String} :
    space ∈ implicitSpaces → space ++ "." ++ name ∈ fullNames →
    StandsFor name (space ++ "." ++ name)

theorem fullName?_of_mem_aliases :
    ∀ entry ∈ aliases, fullName? entry.1 = some entry.2 := by decide +kernel

theorem fullName?_of_mem_fullNames : ∀ full ∈ fullNames, fullName? full = some full := by
  decide +kernel

/-- What is left of a full name without a namespace is not found elsewhere. -/
theorem fullName?_drop : ∀ space ∈ implicitSpaces, ∀ full ∈ fullNames,
    (space ++ ".").toList <+: full.toList →
      fullName? (String.ofList (full.toList.drop (space ++ ".").toList.length)) = some full := by
  decide +kernel

theorem fullName?_of_short {name space : String} (hspace : space ∈ implicitSpaces)
    (hfull : space ++ "." ++ name ∈ fullNames) :
    fullName? name = some (space ++ "." ++ name) := by
  have hchars : (space ++ "." ++ name).toList = (space ++ ".").toList ++ name.toList :=
    String.toList_append
  have hdrop := fullName?_drop space hspace _ hfull (hchars ▸ List.prefix_append _ _)
  rwa [hchars, List.drop_left, String.ofList_toList] at hdrop

/-- What a name is found to stand for is what it stands for. -/
theorem fullName?_eq_some_iff {name full : String} :
    fullName? name = some full ↔ StandsFor name full := by
  constructor
  · intro hfound
    unfold fullName? at hfound
    split at hfound
    · rename_i other hlookup
      cases hfound
      exact .keyword (mem_of_lookup_eq_some hlookup)
    · split at hfound
      · rename_i hcontains
        cases hfound
        exact .full (List.contains_iff_mem.1 hcontains)
      · have hknown := List.find?_some hfound
        obtain ⟨space, hspace, rfl⟩ := List.mem_map.1 (List.mem_of_find?_eq_some hfound)
        exact .short hspace (List.contains_iff_mem.1 hknown)
  · intro hstands
    cases hstands with
    | keyword hentry => exact fullName?_of_mem_aliases _ hentry
    | full hfull => exact fullName?_of_mem_fullNames _ hfull
    | short hspace hfull => exact fullName?_of_short hspace hfull

theorem fullName?_eq_none_iff {name : String} :
    fullName? name = none ↔ ∀ full, ¬ StandsFor name full := by
  simp only [Option.eq_none_iff_forall_ne_some, ne_eq, fullName?_eq_some_iff]

end ScriptBridge.Known
