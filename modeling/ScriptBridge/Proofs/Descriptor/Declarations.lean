import Mathlib.Data.List.Dedup
import Mathlib.Data.List.Induction
import ScriptBridge.Proofs.Descriptor.Keys
import ScriptBridge.Proofs.Descriptor.Loading

/-!
# What becomes of the declarations of a document

A document may declare a key more than once. The descriptor that is read from it has one type of each key,
which is the last declaration of that key, and tells nothing of those before.
-/

namespace ScriptBridge

namespace TypeDecl

variable {decls : List TypeDecl}

/-- What is left of some declarations when each takes the place of those of its key before it. -/
def standing (decls : List TypeDecl) : List TypeDecl :=
  decls.foldl Descriptor.putType []

/-- What replaces the declarations of a key is found under that key, if one was there. -/
theorem findType?_replaced (types : List TypeDecl) (decl : TypeDecl) (key : Value) :
    Descriptor.findType? (types.map fun earlier =>
        if earlier.key.isSameKey decl.key then decl else earlier) key =
      (Descriptor.findType? types key).map fun earlier =>
        if earlier.key.isSameKey decl.key then decl else earlier := by
  have hsame : ((fun other : TypeDecl => other.key.isSameKey key) ∘
      fun earlier => if earlier.key.isSameKey decl.key then decl else earlier) =
        fun other => other.key.isSameKey key := by
    funext earlier
    exact Value.isSameKey_congr_left (Descriptor.keyed_replace decl earlier) key
  rw [Descriptor.findType?, List.find?_map, hsame]
  rfl

theorem findType?_congr {key other : Value} (hkeyed : key.keyed = other.keyed) (types : List TypeDecl) :
    Descriptor.findType? types key = Descriptor.findType? types other := by
  unfold Descriptor.findType?
  congr 1
  funext decl
  exact Value.isSameKey_congr_right hkeyed decl.key

theorem isSameKey_of_findType? {types : List TypeDecl} {key : Value} {decl : TypeDecl}
    (hfind : Descriptor.findType? types key = some decl) : decl.key.isSameKey key = true := by
  unfold Descriptor.findType? at hfind
  simpa using List.find?_some hfind

/-- Under the key of a declaration that has been put there it is found, and under others what was found
before. -/
theorem findType?_putType (types : List TypeDecl) (decl : TypeDecl) (key : Value) :
    Descriptor.findType? (Descriptor.putType types decl) key =
      if decl.key.isSameKey key then some decl else Descriptor.findType? types key := by
  unfold Descriptor.putType
  split
  · rename_i hthere
    rw [findType?_replaced]
    by_cases hsame : decl.key.isSameKey key = true
    · obtain ⟨earlier, hearlier⟩ := Option.isSome_iff_exists.1 hthere
      have hkey : earlier.key.isSameKey decl.key = true :=
        isSameKey_of_findType? hearlier
      rw [if_pos hsame, ← findType?_congr (Value.isSameKey_iff.1 hsame), hearlier, Option.map_some,
        if_pos hkey]
    · rw [if_neg hsame]
      cases hfind : Descriptor.findType? types key with
      | none => rfl
      | some earlier =>
        have hkey : earlier.key.isSameKey key = true := isSameKey_of_findType? hfind
        have hother : ¬earlier.key.isSameKey decl.key = true := by
          rw [Value.isSameKey_iff] at hkey hsame ⊢
          exact fun heq => hsame (heq.symm.trans hkey)
        rw [Option.map_some, if_neg hother]
  · rename_i hthere
    have happend : Descriptor.findType? (types ++ [decl]) key =
        (Descriptor.findType? types key).or (if decl.key.isSameKey key then some decl else none) := by
      rw [Descriptor.findType?, List.find?_append, List.find?_singleton]
      rfl
    rw [happend]
    by_cases hsame : decl.key.isSameKey key = true
    · have hnone : Descriptor.findType? types key = none := by
        rw [← findType?_congr (Value.isSameKey_iff.1 hsame)]
        exact Option.not_isSome_iff_eq_none.1 hthere
      rw [hnone, Option.none_or, if_pos hsame]
    · rw [if_neg hsame, if_neg hsame, Option.or_none]

theorem findType?_foldl_putType (decls before : List TypeDecl) (key : Value) :
    Descriptor.findType? (decls.foldl Descriptor.putType before) key =
      (Descriptor.findType? decls.reverse key).or (Descriptor.findType? before key) := by
  induction decls generalizing before with
  | nil => rfl
  | cons decl decls ih =>
    rw [List.foldl_cons, ih, findType?_putType, List.reverse_cons]
    unfold Descriptor.findType?
    rw [List.find?_append, List.find?_singleton, Option.or_assoc]
    by_cases hsame : decl.key.isSameKey key = true
    · rw [if_pos hsame, if_pos hsame, Option.some_or]
    · rw [if_neg hsame, if_neg hsame, Option.none_or]

/-- What stands under a key is its last declaration. -/
theorem findType?_standing (decls : List TypeDecl) (key : Value) :
    Descriptor.findType? (standing decls) key = Descriptor.findType? decls.reverse key := by
  rw [standing, findType?_foldl_putType]
  exact Option.or_none

theorem keysDistinct_foldl_putType {before : List TypeDecl} (hbefore : KeysDistinct before)
    (decls : List TypeDecl) : KeysDistinct (decls.foldl Descriptor.putType before) := by
  induction decls generalizing before with
  | nil => exact hbefore
  | cons decl decls ih => exact ih (Descriptor.keysDistinct_putType hbefore decl)

theorem keysDistinct_standing (decls : List TypeDecl) : KeysDistinct (standing decls) :=
  keysDistinct_foldl_putType List.Pairwise.nil decls

theorem isSome_findType?_iff {key : Value} :
    (Descriptor.findType? decls key).isSome = true ↔ key.keyed ∈ decls.map (·.key.keyed) := by
  unfold Descriptor.findType?
  rw [List.find?_isSome, List.mem_map]
  simp only [Value.isSameKey_iff]

/-- No key is lost. -/
theorem mem_keys_standing_iff (decls : List TypeDecl) (key : Int ⊕ Value) :
    key ∈ (standing decls).map (·.key.keyed) ↔ key ∈ decls.map (·.key.keyed) := by
  constructor
  all_goals
    intro hmem
    obtain ⟨decl, hdecl, rfl⟩ := List.mem_map.1 hmem
  · rw [← isSome_findType?_iff, findType?_standing, isSome_findType?_iff, List.map_reverse,
      List.mem_reverse] at hmem
    exact hmem
  · rw [← isSome_findType?_iff, findType?_standing, isSome_findType?_iff, List.map_reverse,
      List.mem_reverse]
    exact hmem

/-- As many declarations stand as there are keys. -/
theorem length_standing (decls : List TypeDecl) :
    (standing decls).length = (decls.map (·.key.keyed)).dedup.length := by
  have hperm : ((standing decls).map (·.key.keyed)).Perm (decls.map (·.key.keyed)).dedup := by
    refine (List.perm_ext_iff_of_nodup ?_ (List.nodup_dedup _)).2 fun key => ?_
    · exact KeysDistinct.iff_nodup.1 (keysDistinct_standing decls)
    · rw [mem_keys_standing_iff, List.mem_dedup]
  rw [← hperm.length_eq, List.length_map]

theorem length_standing_le (decls : List TypeDecl) : (standing decls).length ≤ decls.length := by
  calc (standing decls).length = (decls.map (·.key.keyed)).dedup.length := length_standing decls
    _ ≤ (decls.map (·.key.keyed)).length := (List.dedup_sublist _).length_le
    _ = decls.length := List.length_map _

/-- All of some declarations stand just if their keys are distinct. -/
theorem length_standing_eq_iff : (standing decls).length = decls.length ↔ KeysDistinct decls := by
  have hmap : (decls.map (·.key.keyed)).length = decls.length := List.length_map _
  rw [length_standing, ← hmap, KeysDistinct.iff_nodup]
  constructor
  · intro hlength
    exact List.dedup_eq_self.1 ((List.dedup_sublist _).eq_of_length hlength)
  · intro hnodup
    rw [hnodup.dedup]

theorem foldl_putType_of_distinct {before : List TypeDecl} (hdistinct : KeysDistinct (before ++ decls)) :
    decls.foldl Descriptor.putType before = before ++ decls := by
  induction decls generalizing before with
  | nil => exact (List.append_nil before).symm
  | cons decl decls ih =>
    have hfresh : (Descriptor.findType? before decl.key).isSome = false := by
      rw [Option.isSome_eq_false_iff, Option.isNone_iff_eq_none]
      refine List.find?_eq_none.2 fun earlier hearlier => ?_
      rw [(List.pairwise_append.1 hdistinct).2.2 earlier hearlier decl List.mem_cons_self]
      exact Bool.false_ne_true
    rw [List.foldl_cons, Descriptor.putType, if_neg (by rw [hfresh]; exact Bool.false_ne_true)]
    have hsplit : before ++ decl :: decls = (before ++ [decl]) ++ decls := List.append_cons ..
    rw [hsplit] at hdistinct ⊢
    exact ih hdistinct

theorem standing_of_distinct (hdistinct : KeysDistinct decls) : standing decls = decls :=
  foldl_putType_of_distinct hdistinct

theorem findType?_of_mem (hdistinct : KeysDistinct decls) {decl : TypeDecl} (hmem : decl ∈ decls) :
    Descriptor.findType? decls decl.key = some decl := by
  obtain ⟨found, hfound⟩ := Option.isSome_iff_exists.1
    (isSome_findType?_iff.2 (List.mem_map_of_mem hmem : decl.key.keyed ∈ decls.map (·.key.keyed)))
  have hkeyed := Value.isSameKey_iff.1 (isSameKey_of_findType? hfound)
  rw [hfound, List.inj_on_of_nodup_map (KeysDistinct.iff_nodup.1 hdistinct)
    (List.mem_of_find?_eq_some hfound) hmem hkeyed]

/-- After a declaration that stands there is no other of its key. -/
theorem exists_split_of_mem_standing {decl : TypeDecl} (hmem : decl ∈ standing decls) :
    ∃ before after, decls = before ++ decl :: after ∧
      ∀ later ∈ after, later.key.isSameKey decl.key = false := by
  have hlast := findType?_of_mem (keysDistinct_standing decls) hmem
  rw [findType?_standing] at hlast
  obtain ⟨-, after, before, hsplit, hafter⟩ := List.find?_eq_some_iff_append.1 hlast
  refine ⟨before.reverse, after.reverse, ?_, fun later hlater => ?_⟩
  · rw [← List.reverse_reverse decls, hsplit]
    simp
  · simpa using hafter later (List.mem_reverse.1 hlater)

theorem standing_concat (decls : List TypeDecl) (decl : TypeDecl) :
    standing (decls ++ [decl]) = Descriptor.putType (standing decls) decl :=
  List.foldl_append ..

/-- Where keys are texts, putting a declaration among others adds its key at the end, unless it is
there. -/
theorem map_key_putType {decl : TypeDecl} (htexts : ∀ other ∈ decls, other.key.isText = true)
    (htext : decl.key.isText = true) :
    (Descriptor.putType decls decl).map (·.key) =
      decls.map (·.key) ++ if decl.key ∈ decls.map (·.key) then [] else [decl.key] := by
  have hsame : ∀ other ∈ decls, (other.key.isSameKey decl.key = true ↔ other.key = decl.key) :=
    fun other hother => Value.isSameKey_iff_of_isText (htexts other hother) htext
  have hthere : (Descriptor.findType? decls decl.key).isSome = true ↔
      decl.key ∈ decls.map (·.key) := by
    rw [Descriptor.findType?, List.find?_isSome, List.mem_map]
    exact exists_congr fun other => and_congr_right (hsame other)
  rw [Descriptor.putType]
  by_cases hmem : decl.key ∈ decls.map (·.key)
  · rw [if_pos (hthere.2 hmem), if_pos hmem, List.append_nil, List.map_map]
    refine List.map_congr_left fun other hother => ?_
    rw [Function.comp_apply]
    split
    · rename_i hkey
      exact ((hsame other hother).1 hkey).symm
    · rfl
  · rw [if_neg (mt hthere.1 hmem), if_neg hmem, List.map_append, List.map_singleton]

/-- The keys that stand are those there are, each at the place where it comes first. -/
theorem map_key_standing (htexts : ∀ decl ∈ decls, decl.key.isText = true) :
    (standing decls).map (·.key) = (decls.map (·.key)).eraseDups := by
  -- From the right: the last declaration is put among those that stand before it.
  induction decls using List.reverseRecOn with
  | nil => rfl
  | append_singleton decls decl ih =>
    obtain ⟨hbefore, hlast⟩ := List.forall_mem_append.1 htexts
    have hstanding : ∀ other ∈ standing decls, other.key.isText = true := by
      intro other hother
      obtain ⟨before, after, rfl, -⟩ := exists_split_of_mem_standing hother
      exact hbefore other (List.mem_append_right before List.mem_cons_self)
    rw [standing_concat, map_key_putType hstanding (hlast decl List.mem_cons_self), ih hbefore,
      List.map_append, List.eraseDups_append, List.map_singleton, List.removeAll]
    congr 1
    by_cases hmem : decl.key ∈ decls.map (·.key)
    · rw [if_pos (List.mem_eraseDups.2 hmem), List.filter_cons_of_neg (by simpa using hmem)]
      rfl
    · rw [if_neg (mt List.mem_eraseDups.1 hmem), List.filter_cons_of_pos (by simpa using hmem)]
      rfl

end TypeDecl

namespace Descriptor

/-- The declarations of types that a document holds, in their order. -/
def declarationsIn (document : Value) : Except Error (List TypeDecl) := do
  (← listField "types" document).mapM typeOf

theorem exists_mapM_of_foldlM_typeStep {given : List Value} {before types : List TypeDecl}
    (hread : given.foldlM typeStep before = .ok types) :
    ∃ decls, given.mapM typeOf = .ok decls ∧ types = decls.foldl putType before := by
  induction given generalizing before with
  | nil =>
    cases hread
    exact ⟨[], rfl, rfl⟩
  | cons first given ih =>
    rw [List.foldlM_cons, Outcome.bind_eq_ok_iff] at hread
    obtain ⟨middle, hstep, hrest⟩ := hread
    obtain ⟨decl, hdecl, hput⟩ := Outcome.bind_eq_ok_iff.1 hstep
    split at hput
    · cases hput
      obtain ⟨decls, hdecls, rfl⟩ := ih hrest
      exact ⟨decl :: decls, Outcome.mapM_eq_ok_iff.2 (.cons hdecl (Outcome.mapM_eq_ok_iff.1 hdecls)), rfl⟩
    · cases hput

theorem exists_contentOf_of_ofValue {document : Value} {source : String} {module : Descriptor}
    (hread : ofValue document source = .ok module) :
    ∃ given, use (document.field? "assembly") = .ok given ∧
      contentOf ((given.getD .null).orElse (.text source)) document = .ok module := by
  unfold ofValue at hread
  split at hread
  · obtain ⟨given, hgiven, hread⟩ := Outcome.bind_eq_ok_iff.1 hread
    simp only at hread
    split at hread
    · exact ⟨given, hgiven, Outcome.mapError_eq_ok_iff.1 hread⟩
    · cases hread
  · cases hread

theorem exists_types_of_contentOf {assembly document : Value} {module : Descriptor}
    (hread : contentOf assembly document = .ok module) :
    module.assembly = assembly ∧
      ∃ given, listField "types" document = .ok given ∧ typesOf given = .ok module.types := by
  obtain ⟨given, hgiven, hread⟩ := Outcome.bind_eq_ok_iff.1 hread
  obtain ⟨types, htypes, hread⟩ := Outcome.bind_eq_ok_iff.1 hread
  obtain ⟨_, -, hread⟩ := Outcome.bind_eq_ok_iff.1 hread
  obtain ⟨_, -, hread⟩ := Outcome.bind_eq_ok_iff.1 hread
  obtain ⟨_, -, hread⟩ := Outcome.bind_eq_ok_iff.1 hread
  obtain ⟨_, -, hread⟩ := Outcome.bind_eq_ok_iff.1 hread
  cases hread
  exact ⟨rfl, given, hgiven, htypes⟩

/-- The types of a descriptor are those that stand of the declarations in its document. -/
theorem exists_declarationsIn_of_ofValue {document : Value} {source : String} {module : Descriptor}
    (hread : ofValue document source = .ok module) :
    ∃ decls, declarationsIn document = .ok decls ∧ module.types = TypeDecl.standing decls := by
  obtain ⟨_, -, hcontent⟩ := exists_contentOf_of_ofValue hread
  obtain ⟨-, given, hgiven, htypes⟩ := exists_types_of_contentOf hcontent
  obtain ⟨decls, hdecls, hstanding⟩ := exists_mapM_of_foldlM_typeStep htypes
  exact ⟨decls, Outcome.bind_eq_ok_iff.2 ⟨given, hgiven, hdecls⟩, hstanding⟩

/-! ### What can be shown -/

section Short

variable {v found document : Value} {key source : String}

theorem short_of_field? (hshort : v.Short) (hread : use (v.field? key) = .ok (some found)) :
    found.Short := by
  obtain ⟨fields, rfl⟩ := exists_record_of_use_field? hread
  obtain ⟨entry, hentry, rfl⟩ := Option.map_eq_some_iff.1 (Except.ok.inj (use_eq_ok_iff.1 hread))
  cases hshort with
  | record hfields => exact hfields entry (List.mem_of_find?_eq_some hentry)

theorem short_of_required (hshort : v.Short) (hread : use (v.required key) = .ok found) :
    found.Short := by
  obtain ⟨fields, rfl⟩ := exists_record_of_use_required hread
  have hfound := Except.ok.inj (use_eq_ok_iff.1 hread)
  cases hfield : (fields.find? (·.1 == key)).map (·.2) with
  | none =>
    rw [hfield] at hfound
    exact hfound ▸ .null
  | some given =>
    rw [hfield, Option.getD_some] at hfound
    exact hfound ▸ short_of_field? hshort (use_eq_ok_iff.2 (congrArg Except.ok hfield))

theorem short_of_elements {items : List Value} (hshort : v.Short) (helements : v.elements = .ok items) :
    ∀ item ∈ items, item.Short := by
  intro item hitem
  cases hshort with
  | list hitems =>
    cases helements
    exact hitems item hitem
  | text s =>
    cases helements
    obtain ⟨c, -, rfl⟩ := List.mem_map.1 hitem
    exact .text _
  | record _ =>
    cases helements
    obtain ⟨field, -, rfl⟩ := List.mem_map.1 hitem
    exact .text _
  | _ => cases helements

theorem short_of_listField {items : List Value} (hshort : v.Short)
    (hread : listField key v = .ok items) : ∀ item ∈ items, item.Short := by
  obtain ⟨given, hgiven, hread⟩ := Outcome.bind_eq_ok_iff.1 hread
  cases given with
  | none =>
    cases hread
    exact List.forall_mem_nil _
  | some given => exact short_of_elements (short_of_field? hshort hgiven) (use_eq_ok_iff.1 hread)

theorem name_of_typeOf {decl : TypeDecl} (hread : typeOf v = .ok decl) :
    use (v.required "name") = .ok decl.name := by
  obtain ⟨_, -, hread⟩ := Outcome.bind_eq_ok_iff.1 hread
  obtain ⟨_, -, hread⟩ := Outcome.bind_eq_ok_iff.1 hread
  obtain ⟨name, hname, hread⟩ := Outcome.bind_eq_ok_iff.1 hread
  -- None of the fields after the name changes it.
  obtain ⟨_, -, hread⟩ := Outcome.bind_eq_ok_iff.1 hread
  obtain ⟨_, -, hread⟩ := Outcome.bind_eq_ok_iff.1 hread
  obtain ⟨_, -, hread⟩ := Outcome.bind_eq_ok_iff.1 hread
  obtain ⟨_, -, hread⟩ := Outcome.bind_eq_ok_iff.1 hread
  obtain ⟨_, -, hread⟩ := Outcome.bind_eq_ok_iff.1 hread
  obtain ⟨_, -, hread⟩ := Outcome.bind_eq_ok_iff.1 hread
  obtain ⟨_, -, hread⟩ := Outcome.bind_eq_ok_iff.1 hread
  obtain ⟨_, -, hread⟩ := Outcome.bind_eq_ok_iff.1 hread
  obtain ⟨_, -, hread⟩ := Outcome.bind_eq_ok_iff.1 hread
  cases hread
  exact hname

/-- The assembly of a module and the names of its types can be shown if all of its document can. -/
theorem short_of_ofValue {module : Descriptor} (hshort : document.Short)
    (hread : ofValue document source = .ok module) :
    module.assembly.Short ∧ ∀ decl ∈ module.types, decl.name.Short := by
  constructor
  · obtain ⟨given, hgiven, hcontent⟩ := exists_contentOf_of_ofValue hread
    rw [(exists_types_of_contentOf hcontent).1, Value.orElse]
    split
    · cases given with
      | none => exact .null
      | some given => exact short_of_field? hshort hgiven
    · exact .text source
  · obtain ⟨decls, hdecls, htypes⟩ := exists_declarationsIn_of_ofValue hread
    intro decl hdecl
    rw [htypes] at hdecl
    obtain ⟨before, after, rfl, -⟩ := TypeDecl.exists_split_of_mem_standing hdecl
    obtain ⟨given, hgiven, hmap⟩ := Outcome.bind_eq_ok_iff.1 hdecls
    obtain ⟨type, htype, hdecl⟩ := Outcome.exists_of_mem_results hmap
      (List.mem_append_right before List.mem_cons_self)
    exact short_of_required (short_of_listField hshort hgiven type htype) (name_of_typeOf hdecl)

end Short

end Descriptor

end ScriptBridge
