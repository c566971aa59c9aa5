import Mathlib.Data.List.Nodup
import ScriptBridge.Descriptor.Loader
import ScriptBridge.Proofs.Outcome

/-!
# The keys of declared types

Being the same key is an equivalence, and a descriptor that has been read declares no key twice.
-/

namespace ScriptBridge

namespace Value

/-- What a value is as a key: its size if it is a whole number, else itself. -/
def keyed (v : Value) : Int ⊕ Value :=
  match v.wholeNumber? with
  | some n => .inl n
  | none => .inr v

theorem isSameKey_iff {a b : Value} : a.isSameKey b = true ↔ a.keyed = b.keyed := by
  unfold isSameKey keyed
  cases a.wholeNumber? <;> cases b.wholeNumber? <;> simp

theorem isSameKey_iff_of_isText {a b : Value} (ha : a.isText = true) (hb : b.isText = true) :
    a.isSameKey b = true ↔ a = b := by
  obtain ⟨s, rfl⟩ := exists_text_of_isText ha
  obtain ⟨t, rfl⟩ := exists_text_of_isText hb
  exact beq_iff_eq

theorem isSameKey_eq_false_iff {a b : Value} : a.isSameKey b = false ↔ a.keyed ≠ b.keyed := by
  rw [Ne, ← isSameKey_iff, Bool.not_eq_true]

theorem isSameKey_congr_left {a b : Value} (hkeyed : a.keyed = b.keyed) (c : Value) :
    a.isSameKey c = b.isSameKey c := by
  rw [Bool.eq_iff_iff, isSameKey_iff, isSameKey_iff, hkeyed]

theorem isSameKey_congr_right {b c : Value} (hkeyed : b.keyed = c.keyed) (a : Value) :
    a.isSameKey b = a.isSameKey c := by
  rw [Bool.eq_iff_iff, isSameKey_iff, isSameKey_iff, hkeyed]

end Value

/-- No two of some declarations have the same key. -/
def TypeDecl.KeysDistinct (decls : List TypeDecl) : Prop :=
  decls.Pairwise fun a b => a.key.isSameKey b.key = false

namespace TypeDecl.KeysDistinct

variable {decls others : List TypeDecl}

theorem iff_nodup : KeysDistinct decls ↔ (decls.map (·.key.keyed)).Nodup := by
  rw [List.Nodup, List.pairwise_map]
  exact List.Pairwise.iff fun _ _ => Value.isSameKey_eq_false_iff

theorem perm (hdistinct : KeysDistinct decls) (hperm : others.Perm decls) : KeysDistinct others := by
  rw [iff_nodup] at hdistinct ⊢
  exact (hperm.map _).nodup_iff.2 hdistinct

theorem eq_of_key_eq (hdistinct : KeysDistinct decls) {a b : TypeDecl} (ha : a ∈ decls) (hb : b ∈ decls)
    (hkey : a.key = b.key) : a = b :=
  List.inj_on_of_nodup_map (iff_nodup.1 hdistinct) ha hb (congrArg Value.keyed hkey)

theorem find?_eq_some_iff (hdistinct : KeysDistinct decls) {key : String} {decl : TypeDecl} :
    decls.find? (·.key == .text key) = some decl ↔ decl ∈ decls ∧ decl.key = .text key := by
  constructor
  · intro hfind
    exact ⟨List.mem_of_find?_eq_some hfind, by simpa using List.find?_some hfind⟩
  · rintro ⟨hmem, hkey⟩
    obtain ⟨first, hfirst⟩ : ∃ first, decls.find? (·.key == .text key) = some first := by
      refine Option.isSome_iff_exists.1 (List.find?_isSome.2 ⟨decl, hmem, ?_⟩)
      rw [hkey, beq_self_eq_true]
    have hfirstKey : first.key = .text key := by simpa using List.find?_some hfirst
    rw [hfirst, hdistinct.eq_of_key_eq (List.mem_of_find?_eq_some hfirst) hmem
      (hfirstKey.trans hkey.symm)]

/-- Where the keys are distinct, what is found by a key is there in any order. -/
theorem find?_perm (hdistinct : KeysDistinct decls) (hperm : others.Perm decls) (key : String) :
    others.find? (·.key == .text key) = decls.find? (·.key == .text key) := by
  ext decl
  rw [(hdistinct.perm hperm).find?_eq_some_iff,
    hdistinct.find?_eq_some_iff, hperm.mem_iff]

end TypeDecl.KeysDistinct

namespace Descriptor

/-- Putting a declaration in the place of another of its key leaves the keys as they are. -/
theorem keyed_replace (decl earlier : TypeDecl) :
    (if earlier.key.isSameKey decl.key then decl else earlier).key.keyed = earlier.key.keyed := by
  split
  · rename_i hsame
    exact (Value.isSameKey_iff.1 hsame).symm
  · rfl

theorem keysDistinct_putType {types : List TypeDecl} (hdistinct : TypeDecl.KeysDistinct types)
    (decl : TypeDecl) : TypeDecl.KeysDistinct (putType types decl) := by
  unfold putType
  split
  · refine List.pairwise_map.2 (hdistinct.imp ?_)
    intro a b hne
    rw [Value.isSameKey_eq_false_iff] at hne ⊢
    rwa [keyed_replace, keyed_replace]
  · rename_i hnone
    refine List.pairwise_append.2 ⟨hdistinct, List.pairwise_singleton _ _, ?_⟩
    intro earlier hearlier last hlast
    rw [List.mem_singleton.1 hlast]
    rw [findType?, Option.isSome_iff_ne_none, Ne, Decidable.not_not] at hnone
    simpa using List.find?_eq_none.1 hnone earlier hearlier

theorem keysDistinct_of_typesOf {decls : List Value} {types : List TypeDecl}
    (htypes : typesOf decls = .ok types) : TypeDecl.KeysDistinct types := by
  refine Outcome.foldlM_keeps ?_ List.Pairwise.nil htypes
  intro before given after hbefore hstep
  obtain ⟨decl, -, hput⟩ := Outcome.bind_eq_ok_iff.1 hstep
  split at hput
  · cases hput
    exact keysDistinct_putType hbefore decl
  · cases hput

/-- A descriptor that has been read declares no key twice. -/
theorem keysDistinct_of_ofValue {document : Value} {source : String} {module : Descriptor}
    (hread : ofValue document source = .ok module) : TypeDecl.KeysDistinct module.types := by
  unfold ofValue at hread
  split at hread
  · obtain ⟨given, -, hread⟩ := Outcome.bind_eq_ok_iff.1 hread
    simp only at hread
    split at hread
    · obtain ⟨decls, -, hcontent⟩ := Outcome.bind_eq_ok_iff.1 (Outcome.mapError_eq_ok_iff.1 hread)
      obtain ⟨types, htypes, hcontent⟩ := Outcome.bind_eq_ok_iff.1 hcontent
      have hmodule : module.types = types := by
        obtain ⟨_, -, hcontent⟩ := Outcome.bind_eq_ok_iff.1 hcontent
        obtain ⟨_, -, hcontent⟩ := Outcome.bind_eq_ok_iff.1 hcontent
        obtain ⟨_, -, hcontent⟩ := Outcome.bind_eq_ok_iff.1 hcontent
        obtain ⟨_, -, hcontent⟩ := Outcome.bind_eq_ok_iff.1 hcontent
        cases hcontent
        rfl
      exact hmodule ▸ keysDistinct_of_typesOf htypes
    · cases hread
  · cases hread

end Descriptor

end ScriptBridge
