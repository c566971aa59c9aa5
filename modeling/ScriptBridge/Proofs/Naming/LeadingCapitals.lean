import ScriptBridge.Naming
import ScriptBridge.Proofs.Outcome
import ScriptBridge.Proofs.Text.Lowering
import ScriptBridge.Proofs.Text.Runs

/-!
# Names in camel case

Of the capitals that a name starts with, a first part is lowered, and the rest of the name is kept. What is
lowered begins with no capital again, except for such as have no lower case. So a second time nothing is left
to lower, even where the name has come to start with fewer capitals and another rule says how many.
-/

namespace ScriptBridge.Naming

open Text

/-- A name as the capitals it starts with and what follows them. -/
structure LeadingCapitals (name run rest : List Char) : Prop where
  split : name = run ++ rest
  capitals : ∀ c ∈ run, isCapital c = true
  stops : ∀ c ∈ rest.head?, isCapital c = false

/-- The part that is lowered of a run of capitals with a rest behind it. -/
inductive LoweredPart : List Char → List Char → List Char → Prop
  | none (rest : List Char) : LoweredPart [] rest []
  | whole (run : List Char) : LoweredPart run [] run
  | single (c : Char) (rest : List Char) : LoweredPart [c] rest [c]
  | butLast {run rest : List Char} (last : Char) :
    run ≠ [] → rest ≠ [] → LoweredPart (run ++ [last]) rest run

/-! ### The part that is lowered -/

section Part

variable {name run rest lowered : List Char}

theorem leadingCapitals_takeWhile (name : List Char) :
    LeadingCapitals name (name.takeWhile isCapital) (name.dropWhile isCapital) where
  split := List.takeWhile_append_dropWhile.symm
  capitals _ := List.mem_takeWhile_imp
  stops := stop_dropWhile name

theorem LoweredPart.isPrefix (hpart : LoweredPart run rest lowered) : lowered <+: run := by
  cases hpart with
  | none => exact List.prefix_rfl
  | whole => exact List.prefix_rfl
  | single => exact List.prefix_rfl
  | butLast last => exact List.prefix_append lowered [last]

theorem loweredCapitals_append (hrun : ∀ c ∈ run, isCapital c = true)
    (hrest : ∀ c ∈ rest.head?, isCapital c = false) :
    loweredCapitals (run ++ rest) =
      if rest = [] then run.length else if run.length ≤ 1 then run.length else run.length - 1 := by
  rw [loweredCapitals, takeWhile_append_of_stop hrun hrest, List.length_append]
  refine if_congr ?_ rfl rfl
  rw [Nat.left_eq_add, List.length_eq_zero_iff]

theorem LeadingCapitals.loweredPart (hname : LeadingCapitals name run rest) :
    LoweredPart run rest (name.take (loweredCapitals name)) := by
  obtain ⟨rfl, hrun, hrest⟩ := hname
  rw [loweredCapitals_append hrun hrest]
  split_ifs with hwhole hfew
  · subst hwhole
    rw [List.append_nil, List.take_length]
    exact .whole run
  · rw [List.take_left]
    match run, hfew with
    | [], _ => exact .none rest
    | [c], _ => exact .single c rest
  · rcases List.eq_nil_or_concat' run with rfl | ⟨first, last, rfl⟩
    · exact absurd (Nat.zero_le 1) hfew
    have hfirst : first ≠ [] := by
      rintro rfl
      exact hfew (Nat.le_refl 1)
    rw [List.length_append, List.length_singleton, Nat.add_sub_cancel, List.append_assoc,
      List.take_left]
    exact .butLast last hfirst hwhole

example : ["id", "IO", "Name", "URLPath"].map camelCase = ["id", "io", "name", "urlPath"] := by
  decide +kernel

end Part

/-! ### Lowering once more -/

/-- A name is left alone if the capitals it starts with have no lower case. -/
theorem camelCase_eq_self {name : String}
    (hname : ∀ c ∈ name.toList.takeWhile isCapital, IsLowered c) : camelCase name = name := by
  have hpart := (leadingCapitals_takeWhile name.toList).loweredPart.isPrefix
  rw [camelCase, lower, lowerFrom_eq_self fun c hc => hname c (hpart.subset hc),
    List.take_append_drop, String.ofList_toList]

theorem camelCase_camelCase (name : String) : camelCase (camelCase name) = camelCase name := by
  have hlowered := lowerFrom_eq_self_or [] (name.toList.take (loweredCapitals name.toList))
    (name.toList.drop (loweredCapitals name.toList))
  -- Either nothing was lowered at all, or whatever capitals now stand in front have no lower case.
  rcases hlowered with hsame | hcapitals
  · have hname : camelCase name = name := by
      rw [camelCase, lower, hsame, List.take_append_drop, String.ofList_toList]
    rw [hname, hname]
  · refine camelCase_eq_self ?_
    rw [camelCase, String.toList_ofList]
    exact hcapitals

/-- A text is put into camel case, and any other value that can name a member stays as it is. -/
theorem eq_of_memberName {given result : Value} (hname : memberName given = .ok result) :
    result = given ∨ ∃ text, given = .text text ∧ result = .text (camelCase text) := by
  unfold memberName at hname
  split at hname
  case h_1 text =>
    cases hname
    exact .inr ⟨text, rfl, rfl⟩
  case h_2 items =>
    obtain ⟨count, -, hcount⟩ := Outcome.bind_eq_ok_iff.1 hname
    split at hcount
    · cases hcount
      exact .inl rfl
    · split at hcount <;> cases hcount
    · cases hcount
  case h_3 => cases hname
  case h_4 =>
    split at hname
    · cases hname
    · cases hname
      exact .inl rfl

theorem memberName_memberName {given result : Value} (hname : memberName given = .ok result) :
    memberName result = .ok result := by
  obtain rfl | ⟨text, rfl, rfl⟩ := eq_of_memberName hname
  · exact hname
  · rw [memberName, camelCase_camelCase]

/-- Putting a name into camel case lowers a first part of the capitals it starts with and keeps the rest:
nothing if there are none, all of them if there is nothing else, one that is alone, and otherwise all but the
last. Doing it again changes nothing, whatever value names the member. -/
theorem leading_capitals_lowered_once :
    (∀ name : String,
      camelCase (camelCase name) = camelCase name ∧
        ∃ run rest lowered kept,
          LeadingCapitals name.toList run rest ∧ LoweredPart run rest lowered ∧ lowered <+: run ∧
          name.toList = lowered ++ kept ∧ camelCase name = String.ofList (lower lowered ++ kept)) ∧
      ∀ given result : Value, memberName given = .ok result →
        memberName result = .ok result ∧
          (result = given ∨ ∃ text, given = .text text ∧ result = .text (camelCase text)) := by
  refine ⟨fun name => ⟨camelCase_camelCase name, ?_⟩, fun given result hname =>
    ⟨memberName_memberName hname, eq_of_memberName hname⟩⟩
  have hcapitals := leadingCapitals_takeWhile name.toList
  exact ⟨_, _, _, _, hcapitals, hcapitals.loweredPart, hcapitals.loweredPart.isPrefix,
    (List.take_append_drop _ _).symm, rfl⟩

/-- A name that starts with three capitals and then, as the first of them has no lower case, with one. -/
theorem bold_name_lowered_once :
    memberName (.text "𝐀ΣΟδός") = .ok (.text "𝐀ςΟδός") ∧
      memberName (.text "𝐀ςΟδός") = .ok (.text "𝐀ςΟδός") := by
  have hgiven : memberName (.text "𝐀ΣΟδός") = .ok (.text "𝐀ςΟδός") := by decide +kernel
  exact ⟨hgiven, (leading_capitals_lowered_once.2 _ _ hgiven).1⟩

end ScriptBridge.Naming
