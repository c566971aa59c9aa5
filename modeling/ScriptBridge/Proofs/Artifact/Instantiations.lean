import Mathlib
import ScriptBridge.Proofs.Artifact.Nullability
import ScriptBridge.Proofs.Artifact.Registrations
import ScriptBridge.Proofs.Text.Nesting

/-!
# Instantiations

The canonical texts of two instantiations of one type are the same just if those of their arguments are,
one by one. So what is registered for one instantiation is never taken for another.
-/

namespace ScriptBridge

/-! ### Names in references -/

/-- The names in a reference are dotted identifiers: a primitive name may have brackets after it, and a
native array has no collection. This is about the reference itself, not about its parts. -/
def TypeRef.HasDottedNames : TypeRef → Prop
  | .primitive _ managed =>
    Text.IsDotted managed ∨ ∃ name, Text.IsDotted name ∧ managed = name ++ "[]"
  | .array _ collection => collection = "" ∨ Text.IsDotted collection
  | .map _ _ collection => Text.IsDotted collection
  | .generic identity _ => identity.IsDotted
  | .custom identity => identity.IsDotted
  | .parameter name => Text.IsDotted name
  | .unknown managed _ => Text.IsDotted managed
  | .nullable _ | .task | .taskOf _ => True

/-- The names at any depth are dotted identifiers. -/
def TypeRef.IsDotted (ref : TypeRef) : Prop :=
  ∀ part : TypeRef, part.PartOf ref → part.HasDottedNames

/-- Two references apply one type to arguments: a declared type, a collection of pairs, or a qualified
name that stands for no known type. -/
inductive TypeRef.Instances : TypeRef → List TypeRef → TypeRef → List TypeRef → Prop
  | generic {identity : TypeIdentity} {args others : List TypeRef} :
    Instances (.generic identity args) args (.generic identity others) others
  | map {key value otherKey otherValue : TypeRef} {collection : String} :
    Instances (.map key value collection) [key, value]
      (.map otherKey otherValue collection) [otherKey, otherValue]
  | unknown {managed : String} {args others : List TypeRef} :
    '.' ∈ managed.toList →
    Instances (.unknown managed args) args (.unknown managed others) others

namespace TypeRef

variable {part inner ref other : TypeRef} {args others : List TypeRef}

theorem PartOf.trans (hinner : inner.PartOf part) (hpart : part.PartOf ref) : inner.PartOf ref := by
  induction hpart with
  | here => exact hinner
  | nullable _ ih => exact .nullable ih
  | element _ ih => exact .element ih
  | key _ ih => exact .key ih
  | value _ ih => exact .value ih
  | result _ ih => exact .result ih
  | argument hmem _ ih => exact .argument hmem ih
  | applied hmem _ ih => exact .applied hmem ih

theorem IsDotted.of_partOf (hnames : ref.IsDotted) (hpart : part.PartOf ref) : part.IsDotted :=
  fun _ hinner => hnames _ (hinner.trans hpart)

theorem Instances.partOf (hinstances : ref.Instances args other others) :
    (∀ arg ∈ args, arg.PartOf ref) ∧ ∀ arg ∈ others, arg.PartOf other := by
  cases hinstances with
  | generic => exact ⟨fun _ hmem => .argument hmem .here, fun _ hmem => .argument hmem .here⟩
  | map => simp [PartOf.key .here, PartOf.value .here]
  | unknown => exact ⟨fun _ hmem => .applied hmem .here, fun _ hmem => .applied hmem .here⟩

end TypeRef

namespace Text

theorem isPlain_dot : IsPlain ".".toList := by
  intro c hmem
  obtain rfl : c = '.' := List.mem_singleton.1 hmem
  decide

theorem isPlain_of_isDotted {text : String} (hdotted : IsDotted text) : IsPlain text.toList := by
  intro c hmem
  refine ⟨?_, ?_, ?_, ?_, ?_⟩ <;>
  · rintro rfl
    exact not_mem_of_isDotted hdotted (by decide) hmem

theorem isDotted_ne_empty {text : String} (hdotted : IsDotted text) : text ≠ "" := by
  rintro rfl
  exact absurd hdotted (by decide)

end Text

namespace Registration

open Text (IsPlain Sealed)

variable {surface : Surface} {name : String} {args others : List String}

/-! ### Canonical texts -/

theorem isPlain_global (hname : IsPlain name.toList) : IsPlain (global name).toList := by
  have hstart : IsPlain "global::".toList := by decide
  rw [global, String.toList_append]
  exact hstart.append hname

theorem isPlain_fullName {identity : TypeIdentity} (hidentity : identity.IsDotted) :
    IsPlain identity.fullName.toList := by
  obtain ⟨own, hown, hdotted⟩ := hidentity.name
  have hname : IsPlain identity.name.display.toList := by
    rw [hown]
    exact Text.isPlain_of_isDotted hdotted
  unfold TypeIdentity.fullName
  split
  · rename_i htruthy
    obtain ⟨space, hspace, hdotted⟩ := hidentity.space htruthy
    rw [hspace, String.toList_append, String.toList_append]
    exact ((Text.isPlain_of_isDotted hdotted).append Text.isPlain_dot).append hname
  · exact hname

theorem sealed_applied (hname : IsPlain name.toList)
    (hargs : ∀ arg ∈ args, Sealed arg.toList) : Sealed (applied name args).toList := by
  rw [Script.toList_applied]
  exact hname.sealed.append
    ((Text.nested_intercalate hargs).enclosed (by decide) (by decide) (by decide))

theorem sealed_paired {text : String} (htext : Sealed text.toList) :
    Sealed (paired text).toList := by
  have hbyte : Text.Nested ", byte".toList := Text.nested_of_unbracketed (by simp)
  have hpaired : (paired text).toList = '(' :: (text.toList ++ ", byte".toList) ++ [')'] := by
    simp [paired]
  rw [hpaired]
  exact (htext.toNested.append hbyte).enclosed (by decide) (by decide) (by decide)

theorem global_ne_empty (name : String) : global name ≠ "" := by
  intro hempty
  have hlength := congrArg String.length hempty
  simp [global] at hlength

theorem append_ne_empty {text : String} (hne : text ≠ "") (after : String) : text ++ after ≠ "" := by
  intro hempty
  have hchars := congrArg String.toList hempty
  rw [String.toList_append, String.toList_empty, List.append_eq_nil_iff] at hchars
  exact hne (String.toList_inj.1 hchars.1)

/-- A text that can stand among arguments. -/
structure IsArgument (text : String) : Prop where
  nonempty : text ≠ ""
  sealed : Sealed text.toList

theorem IsArgument.append {text : String} (hargument : IsArgument text) {after : String}
    (hafter : IsPlain after.toList) : IsArgument (text ++ after) where
  nonempty := append_ne_empty hargument.nonempty after
  sealed := by
    rw [String.toList_append]
    exact hargument.sealed.append hafter.sealed

theorem isArgument_global (hname : IsPlain name.toList) : IsArgument (global name) where
  nonempty := global_ne_empty name
  sealed := (isPlain_global hname).sealed

theorem isArgument_applied (hname : IsPlain name.toList) (hargs : ∀ arg ∈ args, IsArgument arg) :
    IsArgument (applied (global name) args) where
  nonempty := by
    rw [applied, String.append_assoc, String.append_assoc]
    exact append_ne_empty (global_ne_empty name) _
  sealed := sealed_applied (isPlain_global hname) fun arg hmem => (hargs arg hmem).sealed

theorem isPlain_brackets : IsPlain "[]".toList ∧ IsPlain "?".toList := by
  constructor <;> decide

mutual

/-- Commas in a canonical text stand inside brackets, all the way down. -/
theorem isArgument_render : ∀ ref : TypeRef, ref.IsDotted → IsArgument (render surface ref)
  | .primitive _ managed, hnames => by
    rw [render]
    obtain hname | ⟨element, helement, rfl⟩ := hnames _ .here
    · exact isArgument_global (Text.isPlain_of_isDotted hname)
    · refine isArgument_global ?_
      rw [String.toList_append]
      exact (Text.isPlain_of_isDotted helement).append isPlain_brackets.1
  | .nullable inner, hnames => by
    have hinner := isArgument_render inner (hnames.of_partOf (.nullable .here))
    rw [render]
    split
    · exact hinner.append isPlain_brackets.2
    · exact hinner
  | .array element collection, hnames => by
    have helement := isArgument_render element (hnames.of_partOf (.element .here))
    rw [render]
    split
    · exact helement.append isPlain_brackets.1
    · rename_i hcollection
      have hname := (hnames _ .here).resolve_left (by simpa using hcollection)
      exact isArgument_applied (Text.isPlain_of_isDotted hname) (by simpa using helement)
  | .map key value collection, hnames => by
    have hkey := isArgument_render key (hnames.of_partOf (.key .here))
    have hvalue := isArgument_render value (hnames.of_partOf (.value .here))
    rw [render]
    exact isArgument_applied (Text.isPlain_of_isDotted (hnames _ .here)) (by simp [hkey, hvalue])
  | .generic identity args, hnames => by
    rw [render]
    exact isArgument_applied (isPlain_fullName (hnames _ .here))
      (isArgument_of_mem_renderAll args fun arg hmem => hnames.of_partOf (.argument hmem .here))
  | .custom identity, hnames => by
    rw [render]
    exact isArgument_global (isPlain_fullName (hnames _ .here))
  | .task, _ => by
    rw [render]
    exact isArgument_global (by decide)
  | .taskOf inner, hnames => by
    have hinner := isArgument_render inner (hnames.of_partOf (.result .here))
    rw [render]
    exact ⟨by simp [paired], sealed_paired hinner.sealed⟩
  | .parameter name, hnames => by
    rw [render]
    exact ⟨Text.isDotted_ne_empty (hnames _ .here), (Text.isPlain_of_isDotted (hnames _ .here)).sealed⟩
  | .unknown managed args, hnames => by
    have hname := Text.isPlain_of_isDotted (hnames _ .here)
    rw [render]
    split
    · split
      · exact isArgument_global hname
      · exact isArgument_applied hname
          (isArgument_of_mem_renderAll args fun arg hmem =>
            hnames.of_partOf (.applied hmem .here))
    · exact isArgument_global (by decide)

theorem isArgument_of_mem_renderAll : ∀ refs : List TypeRef, (∀ ref ∈ refs, ref.IsDotted) →
    ∀ text ∈ renderAll surface refs, IsArgument text
  | [], _, _, hmem => nomatch hmem
  | ref :: refs, hnames, text, hmem => by
    rw [renderAll, List.mem_cons] at hmem
    obtain rfl | hmem := hmem
    · exact isArgument_render ref (hnames ref List.mem_cons_self)
    · exact isArgument_of_mem_renderAll refs
        (fun other hother => hnames other (List.mem_cons_of_mem _ hother)) text hmem

end

/-! ### Instantiations of one type -/

theorem applied_eq_iff (hargs : ∀ arg ∈ args, IsArgument arg)
    (hothers : ∀ arg ∈ others, IsArgument arg) :
    applied name args = applied name others ↔ args = others := by
  refine ⟨fun heq => ?_, fun heq => heq ▸ rfl⟩
  rw [applied, applied, String.append_left_inj, String.append_right_inj] at heq
  exact Text.eq_of_intercalate_eq (fun arg hmem => ⟨(hargs arg hmem).nonempty, (hargs arg hmem).sealed⟩)
    (fun arg hmem => ⟨(hothers arg hmem).nonempty, (hothers arg hmem).sealed⟩) heq

theorem global_ne_applied (hname : IsPlain name.toList) (args : List String) :
    global name ≠ applied (global name) args := by
  intro heq
  have hmem : '<' ∈ (global name).toList := by
    rw [heq, Script.toList_applied]
    simp
  exact absurd rfl (isPlain_global hname _ hmem).1

/-- Instantiations of one type have one text just if their arguments have the same texts. -/
theorem render_eq_iff_of_instances {ref other : TypeRef} {args others : List TypeRef}
    (hinstances : ref.Instances args other others) (hnames : ref.IsDotted)
    (hotherNames : other.IsDotted) :
    render surface ref = render surface other ↔
      renderAll surface args = renderAll surface others := by
  obtain ⟨hpart, hotherPart⟩ := hinstances.partOf
  have hargs : ∀ text ∈ renderAll surface args, IsArgument text :=
    isArgument_of_mem_renderAll args fun arg hmem => hnames.of_partOf (hpart arg hmem)
  have hothers : ∀ text ∈ renderAll surface others, IsArgument text :=
    isArgument_of_mem_renderAll others fun arg hmem => hotherNames.of_partOf (hotherPart arg hmem)
  cases hinstances with
  | generic =>
    rw [render, render]
    exact applied_eq_iff hargs hothers
  | map =>
    rw [render, render]
    exact applied_eq_iff hargs hothers
  | @unknown managed _ _ hdot =>
    have hplain := Text.isPlain_of_isDotted (hnames _ .here)
    have hqualified : managed.toList.contains '.' = true := by simpa using hdot
    rw [render, render, if_pos hqualified, if_pos hqualified]
    -- Without arguments there are no brackets, which the texts with arguments have.
    cases args with
    | nil =>
      cases others with
      | nil => exact iff_of_true rfl rfl
      | cons other others => exact iff_of_false (global_ne_applied hplain _) nofun
    | cons arg args =>
      cases others with
      | nil => exact iff_of_false (global_ne_applied hplain _).symm nofun
      | cons other others => exact applied_eq_iff hargs hothers

/-- Two instantiations of one type have the same canonical text if and only if they have as many
arguments with the same texts, one by one. If both are registered, that is also when they are registered
at one place. -/
theorem instantiations_told_apart (surface : Surface) {ref other : TypeRef}
    {args others : List TypeRef} (hinstances : ref.Instances args other others)
    (hnames : ref.IsDotted) (hotherNames : other.IsDotted) :
    (render surface ref = render surface other ↔
        List.Forall₂ (fun arg otherArg => render surface arg = render surface otherArg) args others) ∧
      (ref ∈ refsOfSurface surface → other ∈ refsOfSurface surface →
        render surface ref ∈ ofSurface surface ∧ render surface other ∈ ofSurface surface ∧
        ((ofSurface surface).idxOf (render surface ref) =
            (ofSurface surface).idxOf (render surface other) ↔
          List.Forall₂ (fun arg otherArg => render surface arg = render surface otherArg)
            args others)) := by
  have hsame : render surface ref = render surface other ↔
      List.Forall₂ (fun arg otherArg => render surface arg = render surface otherArg) args others := by
    rw [render_eq_iff_of_instances hinstances hnames hotherNames, renderAll_eq_map,
      renderAll_eq_map, ← List.forall₂_eq_eq_eq, List.forall₂_map_left_iff,
      List.forall₂_map_right_iff]
  have hregistered : ∀ registered ∈ refsOfSurface surface,
      render surface registered ∈ ofSurface surface := by
    intro registered hmem
    rw [ofSurface_eq_distinct, mem_distinct_iff]
    exact List.mem_map_of_mem hmem
  refine ⟨hsame, fun href hother => ⟨hregistered ref href, hregistered other hother, ?_⟩⟩
  rw [List.idxOf_inj (hregistered ref href), hsame]

/-! ### Pairs of pairs -/

def pairIdentity : TypeIdentity where
  space := .text "stock"
  name := .text "Pair"
  arity := 2

def amountRef : TypeRef := .primitive .number "System.Int32"

def amountsRef : TypeRef := .generic pairIdentity [amountRef, amountRef]

def leftRef : TypeRef := .generic pairIdentity [amountsRef, amountRef]

def rightRef : TypeRef := .generic pairIdentity [amountRef, amountsRef]

def stockSurface : Surface where
  methods :=
    [{ kind := .invokable, assembly := .text "Stock", owner := .text "Stock", space := "stock"
       scriptSpace := "stock", name := "Turn", scriptName := "turn"
       arguments := [{ name := .text "pair", scriptName := .text "pair", type := leftRef }]
       returns := rightRef }]
  namespaces := ["stock"]

theorem isDotted_amountRef : amountRef.IsDotted := by
  intro part hpart
  cases hpart
  exact .inl (by decide +kernel)

theorem isDotted_pair {args : List TypeRef} (hargs : ∀ arg ∈ args, arg.IsDotted) :
    (TypeRef.generic pairIdentity args).IsDotted := by
  intro part hpart
  cases hpart with
  | here => exact ⟨⟨_, rfl, by decide +kernel⟩, fun _ => ⟨_, rfl, by decide +kernel⟩⟩
  | argument hmem hpart => exact hargs _ hmem part hpart

/-- A pair with a pair on its left and one with a pair on its right are registered at two places. -/
theorem pairs_told_apart :
    leftRef.Instances [amountsRef, amountRef] rightRef [amountRef, amountsRef] ∧
      leftRef.IsDotted ∧ rightRef.IsDotted ∧
      leftRef ∈ refsOfSurface stockSurface ∧ rightRef ∈ refsOfSurface stockSurface ∧
      (ofSurface stockSurface).idxOf (render stockSurface leftRef) ≠
        (ofSurface stockSurface).idxOf (render stockSurface rightRef) := by
  have hinstances : leftRef.Instances [amountsRef, amountRef] rightRef [amountRef, amountsRef] :=
    .generic
  have hamounts : amountsRef.IsDotted := isDotted_pair (by simp [isDotted_amountRef])
  have hleft : leftRef.IsDotted := isDotted_pair (by simp [isDotted_amountRef, hamounts])
  have hright : rightRef.IsDotted := isDotted_pair (by simp [isDotted_amountRef, hamounts])
  have hleftRegistered : leftRef ∈ refsOfSurface stockSurface := List.mem_cons_self
  have hrightRegistered : rightRef ∈ refsOfSurface stockSurface :=
    List.mem_cons_of_mem _ List.mem_cons_self
  obtain ⟨-, hplaces⟩ := instantiations_told_apart stockSurface hinstances hleft hright
  refine ⟨hinstances, hleft, hright, hleftRegistered, hrightRegistered, fun hsame => ?_⟩
  have htexts := (hplaces hleftRegistered hrightRegistered).2.2.1 hsame
  exact absurd (List.forall₂_cons.1 htexts).1 (by decide +kernel)

end Registration

end ScriptBridge
