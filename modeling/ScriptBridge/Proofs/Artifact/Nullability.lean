import Mathlib
import ScriptBridge.Proofs.Artifact.Markers
import ScriptBridge.Proofs.Artifact.Scoping
import ScriptBridge.Proofs.Script.Unions

/-!
# Absent values in script types

A nullable reference is written as a union with the word for an absent value. Nothing else is, so the
unions in a text are those of the nullable references in it, one each.
-/

namespace ScriptBridge

/-! ### Names that are written -/

/-- Identifiers with dots between them. -/
def Text.IsDotted (text : String) : Prop :=
  ∀ part ∈ Text.dottedParts text, Text.isIdentifier part.toList = true

instance : DecidablePred Text.IsDotted := fun text =>
  inferInstanceAs (Decidable (∀ part ∈ Text.dottedParts text, Text.isIdentifier part.toList = true))

/-- The name is a dotted identifier, and so is the namespace if there is one. -/
structure TypeIdentity.IsDotted (identity : TypeIdentity) : Prop where
  name : ∃ text, identity.name = .text text ∧ Text.IsDotted text
  space : identity.space.isTruthy = true →
    ∃ text, identity.space = .text text ∧ Text.IsDotted text

/-- Bars, brackets and commas are not among the characters of an identifier. -/
theorem Text.not_mem_of_isIdentifier {text : List Char} (hidentifier : isIdentifier text = true)
    {mark : Char} (hmark : mark ∈ ['|', '<', '>', '(', ')', ',']) : mark ∉ text := by
  have hmarks : (['|', '<', '>', '(', ')', ','].all fun mark => !continuesIdentifier mark) = true := by
    decide +kernel
  have hnone : continuesIdentifier mark = false := by
    simpa using List.all_eq_true.1 hmarks mark hmark
  cases text with
  | nil => exact List.not_mem_nil
  | cons first rest =>
    rw [isIdentifier, Bool.and_eq_true, List.all_eq_true] at hidentifier
    obtain ⟨hfirst, hrest⟩ := hidentifier
    intro hmem
    rcases List.mem_cons.1 hmem with rfl | hmem
    · rw [continuesIdentifier, hfirst, Bool.true_or, Bool.true_or] at hnone
      cases hnone
    · cases (hrest mark hmem).symm.trans hnone

theorem Text.forall_mem_intercalate {P : Char → Prop} {separator : String}
    (hseparator : ∀ c ∈ separator.toList, P c) {texts : List String}
    (htexts : ∀ text ∈ texts, ∀ c ∈ text.toList, P c) :
    ∀ c ∈ (String.intercalate separator texts).toList, P c := by
  induction texts with
  | nil => exact fun c hmem => nomatch hmem
  | cons first rest ih =>
    obtain ⟨hfirst, hrest⟩ := List.forall_mem_cons.1 htexts
    cases rest with
    | nil => exact String.intercalate_singleton ▸ hfirst
    | cons next rest =>
      rw [String.intercalate_cons_cons, String.toList_append, String.toList_append]
      exact List.forall_mem_append.2 ⟨List.forall_mem_append.2 ⟨hfirst, hseparator⟩, ih hrest⟩

/-- Nor are they among those of identifiers with dots between them. -/
theorem Text.not_mem_of_isDotted {text : String} (hdotted : IsDotted text) {mark : Char}
    (hmark : mark ∈ ['|', '<', '>', '(', ')', ',']) : mark ∉ text.toList := by
  have hdot : ∀ c ∈ ".".toList, c ≠ mark := by
    intro c hmem heq
    rw [← heq, List.mem_singleton.1 hmem] at hmark
    exact absurd hmark (by decide)
  have hparts := forall_mem_intercalate hdot fun part hpart c hmem heq =>
    not_mem_of_isIdentifier (hdotted part hpart) hmark (heq ▸ hmem)
  have htext : String.intercalate "." (dottedParts text) = text := dotted_dottedParts text
  rw [htext] at hparts
  exact fun hmem => hparts mark hmem rfl

namespace Script

theorem isSimple_dot : IsSimple ".".toList := by
  decide

theorem isSimple_of_isDotted {text : String} (hdotted : Text.IsDotted text) :
    IsSimple text.toList := by
  intro c hmem
  refine ⟨?_, ?_, ?_⟩ <;>
  · rintro rfl
    exact Text.not_mem_of_isDotted hdotted (by decide) hmem

theorem isSimple_of_isNameChar {name : String} (hname : ∀ c ∈ name.toList, TypeExpr.IsNameChar c) :
    IsSimple name.toList := by
  have hbar : ¬ TypeExpr.IsNameChar '|' :=
    TypeExpr.not_isNameChar (by decide) (by decide +kernel) (by decide)
  have hopening : ¬ TypeExpr.IsNameChar '<' :=
    TypeExpr.not_isNameChar (by decide) (by decide +kernel) (by decide)
  have hclosing : ¬ TypeExpr.IsNameChar '>' :=
    TypeExpr.not_isNameChar (by decide) (by decide +kernel) (by decide)
  intro c hmem
  have hc := hname c hmem
  refine ⟨?_, ?_, ?_⟩ <;> rintro rfl
  · exact hbar hc
  · exact hopening hc
  · exact hclosing hc

end Script

/-- Walking a reference starts with it. -/
theorem TypeRef.walk_eq_cons (ref : TypeRef) : ref.walk = ref :: ref.walk.tail := by
  cases ref <;> rfl

section Names

variable {surface : Surface} {identity : TypeIdentity}

theorem isSimple_bucket (bucket : Bucket) : Script.IsSimple bucket.text.toList := by
  cases bucket <;> decide

theorem isSimple_spaceOf (hidentity : identity.IsDotted)
    (hspaces : ∀ type ∈ surface.types, Text.IsDotted type.scriptSpace) :
    Script.IsSimple (ScriptType.spaceOf surface identity).toList := by
  unfold ScriptType.spaceOf
  split
  · rename_i type hfind
    exact Script.isSimple_of_isDotted (hspaces type (List.mem_of_find?_eq_some hfind))
  · split
    · rename_i htruthy
      obtain ⟨text, htext, hdotted⟩ := hidentity.space htruthy
      rw [htext]
      exact Script.isSimple_of_isDotted hdotted
    · decide

theorem isSimple_nameText (hidentity : identity.IsDotted)
    (hspaces : ∀ type ∈ surface.types, Text.IsDotted type.scriptSpace) (space : String) :
    Script.IsSimple (ScriptType.nameText (ScriptType.qualifier surface identity space)
      identity.name.display).toList := by
  have hname : Script.IsSimple identity.name.display.toList := by
    obtain ⟨text, htext, hdotted⟩ := hidentity.name
    rw [htext]
    exact Script.isSimple_of_isDotted hdotted
  unfold ScriptType.nameText ScriptType.qualifier
  dsimp only
  split
  · rename_i own hqualifier
    split at hqualifier
    · cases hqualifier
    · cases hqualifier
      rw [String.toList_append, String.toList_append]
      exact ((isSimple_spaceOf hidentity hspaces).append Script.isSimple_dot).append hname
  · exact hname

end Names

/-! ### Types applied to types -/

section Applied

open Registration (applied)

theorem isSimple_array : Script.IsSimple "Array".toList := by
  decide

theorem isSimple_map : Script.IsSimple "Map".toList := by
  decide

theorem isSimple_promise : Script.IsSimple "Promise".toList := by
  decide

theorem text_array (element : ScriptType) :
    (ScriptType.array element).text = applied "Array" [element.text] := by
  rw [ScriptType.text, applied, String.intercalate_singleton]
  rfl

theorem text_promise (result : ScriptType) :
    (ScriptType.promise result).text = applied "Promise" [result.text] := by
  rw [ScriptType.text, applied, String.intercalate_singleton]
  rfl

theorem text_map (key value : ScriptType) :
    (ScriptType.map key value).text = applied "Map" [key.text, value.text] := by
  rw [ScriptType.text, applied, String.intercalate_cons_cons, String.intercalate_singleton]
  simp only [String.append_assoc]
  rfl

end Applied

/-! ### What is written inside other types -/

/-- The type that is written for a reference inside others. Its brackets match, and its unions are those
of the nullable references in it. -/
structure WrittenAs (surface : Surface) (space : String) (ref : TypeRef) (type : ScriptType) :
    Prop where
  made : ScriptType.ofRef surface [] space .nested ref = .ok type
  hasText : (ScriptType.joinedAs surface space ref).isText = true
  balanced : Script.Balanced type.text.toList
  alternatives : Script.alternatives type.text.toList =
    List.replicate (ref.walk.countP (·.isNullable)) "null"
  isUnion_iff : Script.IsUnion type.text ↔ ref.isNullable = true
  inner : ∀ inner, ref = .nullable inner → ∃ innerType,
    ScriptType.ofRef surface [] space .nested inner = .ok innerType ∧
      ¬ Script.IsUnion innerType.text ∧ type.text = innerType.text ++ " | null"

/-- A reference is written, and what is written for any in it is part of the text. -/
def Spelled (surface : Surface) (space : String) (ref : TypeRef) (type : ScriptType) : Prop :=
  WrittenAs surface space ref type ∧
    ∀ part ∈ ref.walk, ∃ partType, WrittenAs surface space part partType ∧
      Text.Within partType.text type.text

section Written

open Registration (applied)

variable {surface : Surface} {space : String} {ref : TypeRef} {type : ScriptType}

theorem WrittenAs.empty_not_mem (hwritten : WrittenAs surface space ref type) :
    "" ∉ Script.alternatives type.text.toList := by
  rw [hwritten.alternatives]
  exact fun hmem => absurd (List.eq_of_mem_replicate hmem) (by decide)

theorem WrittenAs.not_isUnion (hwritten : WrittenAs surface space ref type)
    (hplain : ref.isNullable = false) : ¬ Script.IsUnion type.text := by
  rw [hwritten.isUnion_iff, hplain]
  exact Bool.false_ne_true

theorem writtenAs_of_plain (hmade : ScriptType.ofRef surface [] space .nested ref = .ok type)
    (hplain : ref.isNullable = false)
    (hjoined : (ScriptType.joinedAs surface space ref).isText = true)
    (hbalanced : Script.Balanced type.text.toList)
    (halternatives : Script.alternatives type.text.toList =
      List.replicate (ref.walk.tail.countP (·.isNullable)) "null")
    (hunion : ¬ Script.IsUnion type.text) : WrittenAs surface space ref type where
  made := hmade
  hasText := hjoined
  balanced := hbalanced
  alternatives := by
    rw [halternatives, ref.walk_eq_cons, List.tail_cons, List.countP_cons_of_neg (by simp [hplain])]
  isUnion_iff := by
    rw [hplain]
    exact iff_of_false hunion Bool.false_ne_true
  inner inner heq := by
    rw [heq] at hplain
    cases hplain

theorem WrittenAs.spelled (hwritten : WrittenAs surface space ref type) (hwalk : ref.walk = [ref]) :
    Spelled surface space ref type := by
  refine ⟨hwritten, fun part hpart => ?_⟩
  rw [hwalk, List.mem_singleton] at hpart
  exact ⟨type, hpart ▸ hwritten, .refl _⟩

theorem spelled_of_isSimple (hmade : ScriptType.ofRef surface [] space .nested ref = .ok type)
    (hwalk : ref.walk = [ref]) (hplain : ref.isNullable = false)
    (hjoined : (ScriptType.joinedAs surface space ref).isText = true)
    (hsimple : Script.IsSimple type.text.toList) : Spelled surface space ref type := by
  refine WrittenAs.spelled ?_ hwalk
  refine writtenAs_of_plain hmade hplain hjoined hsimple.balanced ?_ hsimple.not_isUnion
  rw [Script.alternatives_of_not_mem hsimple.bar_not_mem, hwalk]
  rfl

theorem alternatives_of_forall₂ {args : List TypeRef} {types : List ScriptType}
    (hargs : List.Forall₂ (WrittenAs surface space) args types) :
    ((types.map (·.text)).flatMap fun text => Script.alternatives text.toList) =
      List.replicate ((TypeRef.walkAll args).countP (·.isNullable)) "null" := by
  induction hargs with
  | nil => rfl
  | cons hfirst _ ih =>
    rw [List.map_cons, List.flatMap_cons, ih, hfirst.alternatives, TypeRef.walkAll,
      List.countP_append, List.replicate_append_replicate]

theorem exists_part_of_forall₂ {args : List TypeRef} {types : List ScriptType} {part : TypeRef}
    (hargs : List.Forall₂ (Spelled surface space) args types) (hpart : part ∈ TypeRef.walkAll args) :
    ∃ argType ∈ types, ∃ partType, WrittenAs surface space part partType ∧
      Text.Within partType.text argType.text := by
  rw [TypeRef.walkAll_eq_flatMap, List.mem_flatMap] at hpart
  obtain ⟨arg, harg, hpart⟩ := hpart
  obtain ⟨argType, htype, -, hparts⟩ := Outcome.exists_left_of_forall₂ hargs.flip harg
  exact ⟨argType, htype, hparts part hpart⟩

/-- A type that is applied to others is no union, whatever the others are. -/
theorem spelled_applied {name : String} {args : List TypeRef} {types : List ScriptType}
    (hargs : List.Forall₂ (Spelled surface space) args types)
    (hmade : ScriptType.ofRef surface [] space .nested ref = .ok type)
    (htext : type.text = applied name (types.map (·.text)))
    (hname : Script.IsSimple name.toList) (hwalk : ref.walk = ref :: TypeRef.walkAll args)
    (hplain : ref.isNullable = false)
    (hjoined : (ScriptType.joinedAs surface space ref).isText = true) : Spelled surface space ref type := by
  have hwritten := hargs.imp fun _ _ hspelled => hspelled.1
  have hbalanced : ∀ text ∈ types.map (·.text), Script.Balanced text.toList := by
    refine List.forall_mem_map.2 fun argType htype => ?_
    obtain ⟨arg, -, harg⟩ := Outcome.exists_left_of_forall₂ hwritten htype
    exact harg.balanced
  have hwords : ∀ text ∈ types.map (·.text), "" ∉ Script.alternatives text.toList := by
    refine List.forall_mem_map.2 fun argType htype => ?_
    obtain ⟨arg, -, harg⟩ := Outcome.exists_left_of_forall₂ hwritten htype
    exact harg.empty_not_mem
  have hwhole : WrittenAs surface space ref type := by
    refine writtenAs_of_plain hmade hplain hjoined ?_ ?_ ?_
    · exact htext ▸ Script.balanced_applied hname hbalanced
    · rw [htext, Script.alternatives_applied hname hwords, alternatives_of_forall₂ hwritten, hwalk,
        List.tail_cons]
    · exact htext ▸ Script.not_isUnion_applied hname hbalanced
  refine ⟨hwhole, fun part hpart => ?_⟩
  rw [hwalk, List.mem_cons] at hpart
  rcases hpart with rfl | hpart
  · exact ⟨type, hwhole, .refl _⟩
  · obtain ⟨argType, htype, partType, hpartType, hwithin⟩ := exists_part_of_forall₂ hargs hpart
    refine ⟨partType, hpartType, ?_⟩
    rw [htext]
    exact Registration.within_applied hwithin (List.mem_map_of_mem htype) name

/-- The word for an absent value at a position. -/
theorem isAlpha_absentAt (position : Position) :
    ∀ c ∈ (ScriptType.absentAt position).toList, c.isAlpha = true := by
  cases position <;> simp [ScriptType.absentAt]

/-- What is not a union becomes one, and what is in it stays as it is. -/
theorem spelled_nullable (hspelled : Spelled surface space ref type) (hplain : ref.isNullable = false) :
    Spelled surface space (.nullable ref) (.union type "null") := by
  obtain ⟨hinner, hparts⟩ := hspelled
  have hletters : ∀ c ∈ "null".toList, c.isAlpha = true := isAlpha_absentAt .nested
  have hwhole : WrittenAs surface space (.nullable ref) (.union type "null") := by
    constructor
    case made =>
      rw [ScriptType.ofRef, hinner.made]
      rfl
    case hasText => rfl
    case balanced =>
      exact Script.balanced_union hinner.balanced (Script.isSimple_of_isAlpha hletters)
    case alternatives =>
      rw [ScriptType.text, Script.alternatives_union hinner.empty_not_mem hletters,
        hinner.alternatives, TypeRef.walk, List.countP_cons_of_pos rfl, List.replicate_succ']
    case isUnion_iff => exact iff_of_true (Script.isUnion_union hinner.balanced "null") rfl
    case inner =>
      rintro inner heq
      cases heq
      exact ⟨type, hinner.made, hinner.not_isUnion hplain, String.append_assoc ..⟩
  refine ⟨hwhole, fun part hpart => ?_⟩
  rw [TypeRef.walk, List.mem_cons] at hpart
  rcases hpart with rfl | hpart
  · exact ⟨_, hwhole, .refl _⟩
  · obtain ⟨partType, hpartType, hwithin⟩ := hparts part hpart
    exact ⟨partType, hpartType, (hwithin.append_right " | ").append_right "null"⟩

theorem ofRefs_eq_mapM (handlers : TypeHandlers) (refs : List TypeRef) :
    ScriptType.ofRefs surface handlers space refs =
      refs.mapM (ScriptType.ofRef surface handlers space .nested) := by
  induction refs with
  | nil => rfl
  | cons ref refs ih =>
    rw [ScriptType.ofRefs, List.mapM_cons, ih]

theorem texts_eq_map (types : List ScriptType) :
    ScriptType.texts types = types.map (·.text) := by
  induction types with
  | nil => rfl
  | cons type types ih => rw [ScriptType.texts, ih, List.map_cons]

theorem spelled_instance {identity : TypeIdentity} {args : List TypeRef}
    (hname : Script.IsSimple (ScriptType.nameText (ScriptType.qualifier surface identity space)
      identity.name.display).toList)
    (hargs : ∀ arg ∈ args, ∃ type, Spelled surface space arg type) :
    ∃ type, Spelled surface space (.generic identity args) type := by
  obtain ⟨types, hspelled⟩ := Outcome.exists_forall₂ hargs
  have htypes : ScriptType.ofRefs surface [] space args = .ok types := by
    rw [ofRefs_eq_mapM]
    exact Outcome.mapM_eq_ok_iff.2 (hspelled.imp fun _ _ harg => harg.1.made)
  have htexts : ScriptType.requireNames surface space args = .ok () := by
    refine Value.requireTexts_eq_ok_iff.2 (List.forall_mem_map.2 fun arg harg => ?_)
    obtain ⟨type, htype⟩ := hargs arg harg
    exact htype.1.hasText
  refine ⟨.instance (ScriptType.qualifier surface identity space) identity.name.display types,
    spelled_applied hspelled ?_ ?_ hname rfl rfl rfl⟩
  · rw [ScriptType.ofRef, htypes, htexts]
    rfl
  · rw [ScriptType.text, texts_eq_map]
    rfl

theorem spelled_array (hspelled : Spelled surface space ref type) (collection : String) :
    Spelled surface space (.array ref collection) (.array type) := by
  have hwalk : (TypeRef.array ref collection).walk =
      .array ref collection :: TypeRef.walkAll [ref] := by simp [TypeRef.walk, TypeRef.walkAll]
  refine spelled_applied (.cons hspelled .nil) ?_ (text_array type) isSimple_array hwalk rfl rfl
  rw [ScriptType.ofRef, hspelled.1.made]
  rfl

theorem spelled_taskOf (hspelled : Spelled surface space ref type) :
    Spelled surface space (.taskOf ref) (.promise type) := by
  have hwalk : (TypeRef.taskOf ref).walk = .taskOf ref :: TypeRef.walkAll [ref] := by
    simp [TypeRef.walk, TypeRef.walkAll]
  refine spelled_applied (.cons hspelled .nil) ?_ (text_promise type) isSimple_promise hwalk rfl rfl
  rw [ScriptType.ofRef, hspelled.1.made]
  rfl

theorem spelled_map {key value : TypeRef} {keyType valueType : ScriptType}
    (hkey : Spelled surface space key keyType) (hvalue : Spelled surface space value valueType)
    (collection : String) :
    Spelled surface space (.map key value collection) (.map keyType valueType) := by
  have hwalk : (TypeRef.map key value collection).walk =
      .map key value collection :: TypeRef.walkAll [key, value] := by
    simp [TypeRef.walk, TypeRef.walkAll]
  refine spelled_applied (.cons hkey (.cons hvalue .nil)) ?_ (text_map keyType valueType)
    isSimple_map hwalk rfl rfl
  rw [ScriptType.ofRef, hkey.1.made, hvalue.1.made]
  rfl

theorem spelled_task : Spelled surface space .task (.promise (.plain Bucket.void.text)) := by
  have hvoid : ∀ text ∈ [Bucket.void.text], Script.Balanced text.toList := by
    intro text hmem
    rw [List.mem_singleton.1 hmem]
    exact (isSimple_bucket .void).balanced
  refine WrittenAs.spelled (writtenAs_of_plain rfl rfl rfl ?_ rfl ?_) rfl
  · exact text_promise _ ▸ Script.balanced_applied isSimple_promise hvoid
  · exact text_promise _ ▸ Script.not_isUnion_applied isSimple_promise hvoid

end Written

section Gives

variable {registry : Registry} {surface : Surface} {parameters : List String}

theorem exists_spelled_of_gives (hnames : ∀ identity, registry.IsDeclared identity → identity.IsDotted)
    (hspaces : ∀ type ∈ surface.types, Text.IsDotted type.scriptSpace) (space : String)
    {ref : TypeRef} (hgives : registry.Gives parameters ref) :
    ∃ type, Spelled surface space ref type := by
  -- Induction on how the reference is given: that nothing is nullable twice is what keeps a union
  -- from standing inside another without brackets.
  induction hgives with
  | parameter _ hname =>
    exact ⟨_, spelled_of_isSimple rfl rfl rfl rfl (Script.isSimple_of_isNameChar hname)⟩
  | @custom identity hdeclared _ =>
    have hidentity := hnames identity hdeclared
    refine ⟨_, spelled_of_isSimple rfl rfl rfl ?_ (isSimple_nameText hidentity hspaces space)⟩
    obtain ⟨text, htext, -⟩ := hidentity.name
    refine Surface.isText_joinedAs fun other hother => ?_
    cases hother
    rw [htext]
    rfl
  | @generic identity args hdeclared _ _ _ ih =>
    exact spelled_instance (isSimple_nameText (hnames identity hdeclared) hspaces space) ih
  | @primitive managed bucket _ =>
    exact ⟨_, spelled_of_isSimple rfl rfl rfl rfl (isSimple_bucket bucket)⟩
  | @typedArray managed bucket _ =>
    exact ⟨_, spelled_of_isSimple rfl rfl rfl rfl (isSimple_bucket bucket)⟩
  | nullable hplain _ ih =>
    obtain ⟨type, htype⟩ := ih
    exact ⟨_, spelled_nullable htype hplain⟩
  | nativeArray _ _ ih =>
    obtain ⟨type, htype⟩ := ih
    exact ⟨_, spelled_array htype _⟩
  | listOf _ _ ih =>
    obtain ⟨type, htype⟩ := ih
    exact ⟨_, spelled_array htype _⟩
  | map _ _ _ ihKey ihValue =>
    obtain ⟨keyType, hkey⟩ := ihKey
    obtain ⟨valueType, hvalue⟩ := ihValue
    exact ⟨_, spelled_map hkey hvalue _⟩
  | task => exact ⟨_, spelled_task⟩
  | taskOf _ ih =>
    obtain ⟨type, htype⟩ := ih
    exact ⟨_, spelled_taskOf htype⟩
  | unknown _ _ =>
    exact ⟨_, spelled_of_isSimple rfl rfl rfl rfl (isSimple_bucket .any)⟩

end Gives

/-! ### Positions -/

/-- How the text that is written for a reference at a position shows absent values: a nullable reference
is written as what is inside it, which is no union, or else the word for an absent value. No other
alternatives are in the text, in the order in which they are read, and it is a union only if the
reference is nullable. -/
structure ShowsAbsence (surface : Surface) (space : String) (position : Position) (ref : TypeRef)
    (text : String) : Prop where
  outermost : ∀ inner, ref = .nullable inner → ∃ type,
    ScriptType.ofRef surface [] space .nested inner = .ok type ∧ ¬ Script.IsUnion type.text ∧
      text = type.text ++ (if position = .argument then " | undefined" else " | null")
  inside : ∀ inner, .nullable inner ∈ ref.walk.tail → ∃ type,
    ScriptType.ofRef surface [] space .nested inner = .ok type ∧ ¬ Script.IsUnion type.text ∧
      Text.Within (type.text ++ " | null") text
  alternatives : Script.alternatives text.toList =
    List.replicate (ref.walk.tail.countP (·.isNullable)) "null" ++
      if ref.isNullable then [if position = .argument then "undefined" else "null"] else []
  isUnion_iff : Script.IsUnion text ↔ ref.isNullable = true

section Positions

variable {surface : Surface} {space : String} {ref inner : TypeRef} {type : ScriptType}

theorem Spelled.exists_inner (hspelled : Spelled surface space ref type)
    (hmem : .nullable inner ∈ ref.walk) : ∃ innerType,
      ScriptType.ofRef surface [] space .nested inner = .ok innerType ∧
        ¬ Script.IsUnion innerType.text ∧ Text.Within (innerType.text ++ " | null") type.text := by
  obtain ⟨partType, hwritten, hwithin⟩ := hspelled.2 _ hmem
  obtain ⟨innerType, hmade, hunion, htext⟩ := hwritten.inner inner rfl
  exact ⟨innerType, hmade, hunion, htext ▸ hwithin⟩

theorem Spelled.showsAbsence (hspelled : Spelled surface space ref type)
    (hplain : ref.isNullable = false) (position : Position) :
    ShowsAbsence surface space position ref type.text where
  outermost inner heq := by
    rw [heq] at hplain
    cases hplain
  inside inner hmem := hspelled.exists_inner (List.mem_of_mem_tail hmem)
  alternatives := by
    rw [hspelled.1.alternatives, ref.walk_eq_cons, List.tail_cons,
      List.countP_cons_of_neg (by simp [hplain]), hplain]
    exact (List.append_nil _).symm
  isUnion_iff := hspelled.1.isUnion_iff

theorem Spelled.showsAbsence_nullable (hspelled : Spelled surface space ref type)
    (hplain : ref.isNullable = false) (position : Position) :
    ShowsAbsence surface space position (.nullable ref)
      (type.text ++ " | " ++ ScriptType.absentAt position) where
  outermost inner heq := by
    cases heq
    refine ⟨type, hspelled.1.made, hspelled.1.not_isUnion hplain, ?_⟩
    rw [String.append_assoc]
    cases position <;> rfl
  inside inner hmem := by
    obtain ⟨innerType, hmade, hunion, hwithin⟩ := hspelled.exists_inner hmem
    exact ⟨innerType, hmade, hunion, (hwithin.append_right " | ").append_right _⟩
  alternatives := by
    rw [Script.alternatives_union hspelled.1.empty_not_mem (isAlpha_absentAt position),
      hspelled.1.alternatives]
    cases position <;> rfl
  isUnion_iff := iff_of_true (Script.isUnion_union hspelled.1.balanced _) rfl

/-- Only nullable references, and unknown types that are handled, are written by their position. -/
theorem ofRef_eq_nested (hplain : ref.isNullable = false) (position : Position) :
    ScriptType.ofRef surface [] space position ref =
      ScriptType.ofRef surface [] space .nested ref := by
  cases ref with
  | nullable inner => cases hplain
  | _ => rfl

variable {registry : Registry} {parameters : List String}

theorem exists_showsAbsence_of_gives
    (hnames : ∀ identity, registry.IsDeclared identity → identity.IsDotted)
    (hspaces : ∀ type ∈ surface.types, Text.IsDotted type.scriptSpace)
    (hgives : registry.Gives parameters ref) (space : String) (position : Position) :
    ∃ type, ScriptType.ofRef surface [] space position ref = .ok type ∧
      ShowsAbsence surface space position ref type.text := by
  cases hnullable : ref.isNullable with
  | false =>
    obtain ⟨type, hspelled⟩ := exists_spelled_of_gives hnames hspaces space hgives
    exact ⟨type, (ofRef_eq_nested hnullable position).trans hspelled.1.made,
      hspelled.showsAbsence hnullable position⟩
  | true =>
    cases hgives with
    | nullable hplain hinner =>
      obtain ⟨type, hspelled⟩ := exists_spelled_of_gives hnames hspaces space hinner
      refine ⟨.union type (ScriptType.absentAt position), ?_,
        hspelled.showsAbsence_nullable hplain position⟩
      rw [ScriptType.ofRef, hspelled.1.made]
      rfl
    | _ => cases hnullable

end Positions

/-! ### Members of interfaces -/

/-- A member is written as an optional property, of the type inside, if it is nullable, and else as a
property that has to be there. The type of a property is never a union. -/
structure WritesMember (surface : Surface) (space : String) (member : Member)
    (property : PropertyDeclaration) : Prop where
  made : ScriptType.ofRef surface [] space .member member.type.stripNullable = .ok property.type
  text : property.text = member.scriptName.display ++
    (if member.type.isNullable then "?: " else ": ") ++ property.type.text ++ ";"
  isOptional_iff : property.isOptional = true ↔ member.type.isNullable = true
  not_isUnion : ¬ Script.IsUnion property.type.text

section Members

variable {registry : Registry} {parameters : List String} {surface : Surface} {space : String}

theorem stripNullable_of_plain {ref : TypeRef} (hplain : ref.isNullable = false) :
    ref.stripNullable = ref := by
  cases ref with
  | nullable inner => cases hplain
  | _ => rfl

theorem not_isUnion_of_gives {ref : TypeRef} {position : Position} {type : ScriptType}
    (hnames : ∀ identity, registry.IsDeclared identity → identity.IsDotted)
    (hspaces : ∀ type ∈ surface.types, Text.IsDotted type.scriptSpace)
    (hgives : registry.Gives parameters ref) (hplain : ref.isNullable = false)
    (hmade : ScriptType.ofRef surface [] space position ref = .ok type) :
    ¬ Script.IsUnion type.text := by
  obtain ⟨other, hother, hshows⟩ := exists_showsAbsence_of_gives hnames hspaces hgives space position
  obtain rfl := Except.ok.inj (hmade.symm.trans hother)
  rw [hshows.isUnion_iff, hplain]
  exact Bool.false_ne_true

theorem writesMember_of_ofMember {member : Member} {property : PropertyDeclaration}
    (hnames : ∀ identity, registry.IsDeclared identity → identity.IsDotted)
    (hspaces : ∀ type ∈ surface.types, Text.IsDotted type.scriptSpace)
    (hgives : registry.Gives parameters member.type)
    (hmade : PropertyDeclaration.ofMember surface [] space member = .ok property) :
    WritesMember surface space member property := by
  unfold PropertyDeclaration.ofMember at hmade
  split at hmade
  · rename_i inner hnullable
    obtain ⟨type, htype, hmade⟩ := Outcome.bind_eq_ok_iff.1 hmade
    cases hmade
    rw [hnullable] at hgives
    cases hgives with
    | nullable hplain hinner =>
      refine ⟨?_, by rw [hnullable]; rfl, by simp [hnullable, TypeRef.isNullable], ?_⟩
      · rw [hnullable, TypeRef.stripNullable, stripNullable_of_plain hplain]
        exact htype
      · exact not_isUnion_of_gives hnames hspaces hinner hplain htype
  · rename_i hnullable
    obtain ⟨type, htype, hmade⟩ := Outcome.bind_eq_ok_iff.1 hmade
    cases hmade
    have hplain : member.type.isNullable = false := by
      cases href : member.type with
      | nullable inner => exact absurd href (hnullable inner)
      | _ => rfl
    refine ⟨?_, by rw [hplain]; rfl, by simp [hplain], ?_⟩
    · rw [stripNullable_of_plain hplain]
      exact htype
    · exact not_isUnion_of_gives hnames hspaces hgives hplain htype

end Members

section Inspected

variable {inspector : Inspector} {modules : List Descriptor} {surface : Surface}

/-- The types of members are given by expressions. -/
theorem exists_gives_of_member (hinspect : (inspector.inspect modules).result = .ok surface)
    {type : DeclaredType} (htype : type ∈ surface.types) {member : Member}
    (hmember : member ∈ type.members) :
    ∃ parameters, (Registry.ofModules modules).Gives parameters member.type := by
  obtain ⟨decl, -, -, -, -, -, hdescribe⟩ := describedBy_of_inspect hinspect htype
  rcases shape_of_describe hdescribe with ⟨-, hshape⟩ | ⟨-, members, bases, hmembers, -, hshape⟩
  · rw [DeclaredType.members, hshape] at hmember
    cases hmember
  · rw [DeclaredType.members, hshape] at hmember
    obtain ⟨given, -, -, hresolve⟩ := (exists_member_iff hmembers).1 ⟨member, hmember, rfl⟩
    exact ⟨decl.parameterNames, Registry.gives_of_resolveValue hresolve⟩

theorem isDotted_of_isDeclared
    (hnames : ∀ module ∈ modules, ∀ decl ∈ module.types, decl.identity.IsDotted)
    {identity : TypeIdentity} (hdeclared : (Registry.ofModules modules).IsDeclared identity) :
    identity.IsDotted := by
  obtain ⟨decl, hfind, rfl⟩ := hdeclared
  rw [Registry.find?_ofModules] at hfind
  obtain ⟨module, hmodule, hdecl⟩ := List.mem_flatMap.1 (List.mem_of_find?_eq_some hfind)
  exact hnames module hmodule decl hdecl

theorem writesMembers_of_interface
    (hnames : ∀ module ∈ modules, ∀ decl ∈ module.types, decl.identity.IsDotted)
    (hspaces : ∀ type ∈ surface.types, Text.IsDotted type.scriptSpace)
    (hinspect : (inspector.inspect modules).result = .ok surface) {type : DeclaredType}
    (htype : type ∈ surface.types) {outer : InterfaceDeclaration}
    (hmade : TypeDeclaration.ofType surface [] type = .ok (.interface outer)) :
    List.Forall₂ (WritesMember surface type.scriptSpace) type.members outer.properties := by
  obtain ⟨-, -, hproperties⟩ := exists_of_interface hmade
  have hmembers := (List.forall₂_and_left type.members outer.properties).2
    ⟨fun _ hmem => hmem, Outcome.mapM_eq_ok_iff.1 hproperties⟩
  refine hmembers.imp ?_
  rintro member property ⟨hmember, hproperty⟩
  obtain ⟨parameters, hgives⟩ := exists_gives_of_member hinspect htype hmember
  exact writesMember_of_ofMember (fun identity => isDotted_of_isDeclared hnames) hspaces hgives
    hproperty

end Inspected

/-- Where names and namespaces are dotted identifiers, the text of what an expression resolves to shows
an absent value once for each nullable reference in it, and an interface has an optional property for
each of its nullable members and for no other. -/
theorem absence_shown_and_optional :
    (∀ (registry : Registry) (surface : Surface) (text home : String) (parameters : List String)
        (ref : TypeRef), (∀ decl ∈ registry.decls, decl.identity.IsDotted) →
      (∀ type ∈ surface.types, Text.IsDotted type.scriptSpace) →
      registry.resolveText text home parameters = .ok ref →
        ∀ space position, ∃ type, ScriptType.ofRef surface [] space position ref = .ok type ∧
          ShowsAbsence surface space position ref type.text) ∧
    ∀ (inspector : Inspector) (modules : List Descriptor) (surface : Surface)
        (file : List NamespaceDeclaration),
      (∀ module ∈ modules, ∀ decl ∈ module.types, decl.identity.IsDotted) →
      (∀ type ∈ surface.types, Text.IsDotted type.scriptSpace) →
      (inspector.inspect modules).result = .ok surface →
      NamespaceDeclaration.ofSurface surface [] = .ok file →
        ∀ declaration ∈ file, ∀ outer, .interface outer ∈ declaration.types →
          ∃ type ∈ surface.types, TypeDeclaration.ofType surface [] type = .ok (.interface outer) ∧
            List.Forall₂ (WritesMember surface type.scriptSpace) type.members outer.properties := by
  constructor
  · intro registry surface text home parameters ref hdecls hspaces hresolve
    refine exists_showsAbsence_of_gives ?_ hspaces (Registry.gives_of_resolveText hresolve)
    rintro identity ⟨decl, hfind, rfl⟩
    exact hdecls decl (List.mem_of_find?_eq_some hfind)
  · intro inspector modules surface file hnames hspaces hinspect hmade declaration hdeclaration outer
      houter
    obtain ⟨type, htype, -, htypeMade⟩ := exists_type_of_mem hmade hdeclaration houter
    exact ⟨type, htype, htypeMade,
      writesMembers_of_interface hnames hspaces hinspect htype htypeMade⟩

/-! ### Ships -/

def shipDecl : TypeDecl :=
  objectDecl "harbour" "Ship" []
    [{ name := .text "Crew", type := .text "List<int?>?", isStatic := false, isComputed := false },
      { name := .text "Name", type := .text "string", isStatic := false, isComputed := false }] false

/-- Ships, and a method that finds one. -/
def harbourModule : Descriptor where
  assembly := .text "Harbour"
  types := [shipDecl]
  methods := [invokableDecl "harbour" "Harbour" "Find" "Ship"]

def crewRef : TypeRef :=
  .nullable (.array (.nullable (.primitive .number "System.Int32"))
    "System.Collections.Generic.List")

def shipType : DeclaredType :=
  objectType shipDecl
    [{ name := .text "Crew", scriptName := .text "crew", type := crewRef },
      { name := .text "Name", scriptName := .text "name", type := .primitive .string "System.String" }]

def harbourSurface : Surface where
  methods := [invokableMethod "harbour" "Harbour" "Find" "find" (.custom shipDecl.identity)]
  types := [shipType]
  namespaces := ["harbour"]

def harbourRegistry : Registry where
  decls := [shipDecl]

/-- `List<int?>?`. -/
def listOfInts : TypeExpr :=
  .mk "List" [.mk "int" [] [.nullable]] [.nullable]

theorem parse_listOfInts : TypeExpr.parse "List<int?>?" = .ok listOfInts := by
  cbv

theorem resolveText_crew :
    harbourRegistry.resolveText "List<int?>?" "harbour" [] = .ok crewRef :=
  Registry.resolveText_eq_ok_iff.2 ⟨listOfInts, parse_listOfInts, by decide +kernel⟩

theorem describe_shipDecl :
    describe harbourRegistry shipDecl.identity shipDecl "harbour" = .ok shipType := by
  have hcrew : harbourRegistry.resolveValue (.text "List<int?>?") "harbour" [] = .ok crewRef :=
    Registry.resolveValue_eq_ok_iff.2 ⟨_, listOfInts, rfl, parse_listOfInts, by decide +kernel⟩
  have hname : harbourRegistry.resolveValue (.text "string") "harbour" [] =
      .ok (.primitive .string "System.String") :=
    Registry.resolveValue_eq_ok_iff.2 ⟨_, .mk "string" [] [], rfl, by cbv, by decide +kernel⟩
  have hmembers : membersOf harbourRegistry shipDecl = .ok shipType.members :=
    Outcome.mapM_eq_ok_iff.2
      (.cons (Outcome.bind_eq_ok_iff.2 ⟨_, hcrew, rfl⟩)
        (.cons (Outcome.bind_eq_ok_iff.2 ⟨_, hname, rfl⟩) .nil))
  have hshape : shapeOf harbourRegistry shipDecl = .ok shipType.shape :=
    Outcome.bind_eq_ok_iff.2 ⟨_, hmembers, rfl⟩
  exact Outcome.bind_eq_ok_iff.2 ⟨_, hshape, rfl⟩

theorem inspect_harbourModule :
    (trialsInspector.inspect [harbourModule]).result = .ok harbourSurface := by
  have hship : harbourRegistry.resolveValue (.text "Ship") "harbour" [] =
      .ok (.custom shipDecl.identity) :=
    Registry.resolveValue_eq_ok_iff.2 ⟨_, .mk "Ship" [] [], rfl, by cbv, by decide +kernel⟩
  have hdeclared : declareModules [harbourModule] ({}, { resolver := trialsInspector.resolver }) =
      (harbourRegistry, { resolver := trialsInspector.resolver }) := rfl
  refine inspect_of_takes hdeclared
    ⟨_, .next (.taken rfl rfl rfl rfl rfl rfl rfl hship rfl
      (@Explores.described _ _ _ _ _ shipDecl _ shipType rfl rfl rfl rfl describe_shipDecl .done))
      .done, ?_⟩
  rfl

def shipInterface : InterfaceDeclaration where
  name := "Ship"
  parameters := []
  bases := []
  properties :=
    [{ name := "crew", isOptional := true, type := .array (.union (.plain "number") "null") },
      { name := "name", isOptional := false, type := .plain "string" }]

def harbourFile : List NamespaceDeclaration :=
  [{ path := ["harbour"]
     types := [.interface shipInterface]
     methods :=
      [{ kind := .invokable, name := "find", parameters := [],
         result := some (.declared none "Ship") }] }]

theorem declared_harbourSurface :
    NamespaceDeclaration.ofSurface harbourSurface [] = .ok harbourFile := by
  cbv

/-- The crew of a ship may be absent, and so may any of the crew. -/
theorem crew_shown_absent :
    (∃ type, ScriptType.ofRef harbourSurface [] "harbour" .argument crewRef = .ok type ∧
        ShowsAbsence harbourSurface "harbour" .argument crewRef type.text ∧
        type.text = "Array<number | null> | undefined") ∧
      (trialsInspector.inspect [harbourModule]).result = .ok harbourSurface ∧
      NamespaceDeclaration.ofSurface harbourSurface [] = .ok harbourFile ∧
      List.Forall₂ (WritesMember harbourSurface "harbour") shipType.members
        shipInterface.properties ∧
      shipInterface.properties.map (·.text) =
        ["crew?: Array<number | null>;", "name: string;"] := by
  have hspace : Text.IsDotted "harbour" := by decide +kernel
  have hship : shipDecl.identity.IsDotted :=
    ⟨⟨"Ship", rfl, by decide +kernel⟩, fun _ => ⟨"harbour", rfl, hspace⟩⟩
  have hspaces : ∀ type ∈ harbourSurface.types, Text.IsDotted type.scriptSpace :=
    List.forall_mem_singleton.2 hspace
  obtain ⟨hshown, hwritten⟩ := absence_shown_and_optional
  obtain ⟨type, hmade, hshows⟩ := hshown harbourRegistry harbourSurface "List<int?>?" "harbour" []
    crewRef (List.forall_mem_singleton.2 hship) hspaces resolveText_crew "harbour" .argument
  obtain ⟨declared, hdeclared, -, hmembers⟩ := hwritten trialsInspector [harbourModule]
    harbourSurface harbourFile
    (List.forall_mem_singleton.2 (List.forall_mem_singleton.2 hship)) hspaces inspect_harbourModule
    declared_harbourSurface _ List.mem_cons_self shipInterface List.mem_cons_self
  obtain rfl := List.mem_singleton.1 hdeclared
  refine ⟨⟨type, hmade, hshows, ?_⟩, inspect_harbourModule, declared_harbourSurface, hmembers, rfl⟩
  obtain rfl : .union (.array (.union (.plain "number") "null")) "undefined" = type :=
    Except.ok.inj hmade
  rfl

end ScriptBridge
