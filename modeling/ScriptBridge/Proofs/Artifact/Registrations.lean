import Mathlib.Data.List.Nodup
import ScriptBridge.Artifact.Registrations
import ScriptBridge.Proofs.Artifact.Adapters

/-!
# What is registered

What a binding converts is registered with the serializer, and nothing is registered besides but the
declared types themselves. Each text is registered where it is first demanded.
-/

namespace ScriptBridge

namespace Registration

/-- The texts that a reference in a signature demands, in order: none if it is not serialized, else that
of what is left of it without nullable wrappers. A task demands its value paired with a byte, and
what its value demands. A collection that is an interface demands the collections that stand for it too. -/
inductive Demands (surface : Surface) : TypeRef → List String → Prop
  | none {ref : TypeRef} : ref.isSerialized = false → Demands surface ref []
  | task {ref inner : TypeRef} {texts : List String} :
    ref.isSerialized = true → ref.stripNullable = .taskOf inner →
    Demands surface inner texts →
    Demands surface ref (("(" ++ render surface inner ++ ", byte)") :: texts)
  | list {ref element : TypeRef} {collection : String} :
    ref.isSerialized = true → ref.stripNullable = .array element collection →
    collection ∈ listInterfaces →
    Demands surface ref
      [render surface ref.stripNullable,
        "global::System.Collections.Generic.List<" ++ render surface element ++ ">",
        render surface element ++ "[]"]
  | map {ref key value : TypeRef} {collection : String} :
    ref.isSerialized = true → ref.stripNullable = .map key value collection →
    collection ∈ mapInterfaces →
    Demands surface ref
      [render surface ref.stripNullable,
        "global::System.Collections.Generic.Dictionary<" ++ render surface key ++ ", " ++
          render surface value ++ ">"]
  | plain {ref : TypeRef} :
    ref.isSerialized = true → (∀ inner, ref.stripNullable ≠ .taskOf inner) →
    (∀ element, ∀ collection ∈ listInterfaces, ref.stripNullable ≠ .array element collection) →
    (∀ key value, ∀ collection ∈ mapInterfaces, ref.stripNullable ≠ .map key value collection) →
    Demands surface ref [render surface ref.stripNullable]

section Demands

variable {surface : Surface}

theorem Demands.nullable {inner : TypeRef} {texts : List String}
    (hdemands : Demands surface inner texts) : Demands surface (.nullable inner) texts := by
  have hstrip : (TypeRef.nullable inner).stripNullable = inner.stripNullable := rfl
  have hsame : (TypeRef.nullable inner).isSerialized = inner.isSerialized := rfl
  cases hdemands with
  | none hserialized => exact .none hserialized
  | task hserialized htask hinner => exact .task hserialized htask hinner
  | list hserialized hlist hcollection => exact hstrip ▸ .list (hsame ▸ hserialized) hlist hcollection
  | map hserialized hmap hcollection => exact .map hserialized hmap hcollection
  | plain hserialized htask hlist hmap => exact .plain hserialized htask hlist hmap

theorem list_text (element : String) :
    applied (global "System.Collections.Generic.List") [element] =
      "global::System.Collections.Generic.List<" ++ element ++ ">" := by
  have hname : global "System.Collections.Generic.List" ++ "<" =
      "global::System.Collections.Generic.List<" := rfl
  rw [applied, hname, String.intercalate_singleton]

theorem dictionary_text (key value : String) :
    applied (global "System.Collections.Generic.Dictionary") [key, value] =
      "global::System.Collections.Generic.Dictionary<" ++ key ++ ", " ++ value ++ ">" := by
  have hname : global "System.Collections.Generic.Dictionary" ++ "<" =
      "global::System.Collections.Generic.Dictionary<" := rfl
  rw [applied, hname, String.intercalate_cons_cons, String.intercalate_singleton]
  simp only [String.append_assoc]

theorem demands_array (element : TypeRef) (collection : String) :
    Demands surface (.array element collection) (ofRef surface (.array element collection)) := by
  unfold ofRef
  split
  · rename_i hserialized
    rw [substitutes]
    by_cases hcollection : collection ∈ listInterfaces
    · rw [if_pos (by simpa using hcollection)]
      simp only [list_text]
      exact .list hserialized rfl hcollection
    · rw [if_neg (by simpa using hcollection)]
      refine .plain hserialized nofun (fun _ other hother heq => ?_) nofun
      cases heq
      exact hcollection hother
  · rename_i hserialized
    exact .none (by simpa using hserialized)

theorem demands_map (key value : TypeRef) (collection : String) :
    Demands surface (.map key value collection) (ofRef surface (.map key value collection)) := by
  have hserialized : (TypeRef.map key value collection).isSerialized = true := rfl
  unfold ofRef
  rw [if_pos hserialized, substitutes]
  by_cases hcollection : collection ∈ mapInterfaces
  · rw [if_pos (by simpa using hcollection), dictionary_text]
    exact .map hserialized rfl hcollection
  · rw [if_neg (by simpa using hcollection)]
    refine .plain hserialized nofun nofun (fun _ _ other hother heq => ?_)
    cases heq
    exact hcollection hother

/-- The registrations for a reference are what it demands. -/
theorem demands_ofRef : ∀ ref : TypeRef, Demands surface ref (ofRef surface ref)
  | .nullable inner => (demands_ofRef inner).nullable
  | .taskOf inner => by
    rw [ofRef]
    split
    · rename_i hserialized
      exact .task hserialized rfl (demands_ofRef inner)
    · rename_i hserialized
      exact .none (by simpa [TypeRef.isSerialized] using hserialized)
  | .array element collection => demands_array element collection
  | .map key value collection => demands_map key value collection
  | .generic identity args => .plain rfl nofun nofun nofun
  | .custom identity => .plain rfl nofun nofun nofun
  | .primitive .. | .task | .parameter _ | .unknown .. => .none rfl

end Demands

/-! ### First occurrences -/

theorem mem_distinct_iff {texts : List String} {text : String} :
    text ∈ distinct texts ↔ text ∈ texts := by
  induction texts with
  | nil => rfl
  | cons first rest ih =>
    rw [distinct, List.mem_cons, List.mem_cons, List.mem_filter, ih]
    by_cases hfirst : text = first
    · simp [hfirst]
    · simp [hfirst]

theorem nodup_distinct (texts : List String) : (distinct texts).Nodup := by
  induction texts with
  | nil => exact List.nodup_nil
  | cons first rest ih =>
    rw [distinct, List.nodup_cons]
    exact ⟨by simp, ih.filter _⟩

/-- The texts stand in the order of their first occurrences. -/
theorem pairwise_distinct (texts : List String) :
    (distinct texts).Pairwise fun a b => texts.idxOf a < texts.idxOf b := by
  induction texts with
  | nil => exact .nil
  | cons first rest ih =>
    have hother : ∀ text ∈ (distinct rest).filter (· != first),
        (first :: rest).idxOf text = rest.idxOf text + 1 := by
      intro text htext
      have hne : text ≠ first := by simpa using (List.mem_filter.1 htext).2
      exact List.idxOf_cons_ne _ hne.symm
    rw [distinct, List.pairwise_cons]
    refine ⟨fun text htext => ?_, ?_⟩
    · rw [hother text htext, List.idxOf_cons_self]
      exact Nat.succ_pos _
    · refine List.Pairwise.imp_of_mem (fun ha hb hlt => ?_) (ih.filter _)
      rw [hother _ ha, hother _ hb]
      exact Nat.succ_lt_succ hlt

end Registration

/-! ### Bindings and registrations -/

theorem TypeRef.crossing_eq_iff (ref : TypeRef) (convert value : String) :
    ref.crossing convert value = convert ++ "(" ++ value ++ ")" ↔ ref.isSerialized = true := by
  unfold crossing
  split
  · rename_i hserialized
    exact iff_of_true rfl hserialized
  · rename_i hserialized
    refine iff_of_false (fun heq => ?_) hserialized
    have hlength := congrArg String.length heq
    simp only [String.length_append] at hlength
    have hbracket : "(".length = 1 := rfl
    omega

/-- The texts under which the declared types without type parameters are registered. -/
def Surface.namedTexts (surface : Surface) : List String :=
  (surface.types.filter (·.parameters.isEmpty)).map fun type =>
    Registration.render surface (.custom type.identity)

/-- Bindings convert the arguments and results of just the types that are serialized; what these demand,
and the texts of the declared types without type parameters, is what is registered, each text once and
where it is first demanded. -/
theorem registered_iff_demanded (surface : Surface) :
    (∀ method ∈ surface.methods,
        (∀ entries, method.bindingEntries = .ok entries →
          entries.map (·.text) = method.entryTexts method.asyncAdapter ∨
            entries.map (·.text) = method.entryTexts method.plainAdapter) ∧
        ((∀ argument ∈ method.arguments, argument.scriptName.isText = true) →
          ∃ entries, method.bindingEntries = .ok entries)) ∧
      (∀ ref : TypeRef, ∀ convert value,
        ref.crossing convert value = convert ++ "(" ++ value ++ ")" ↔ ref.isSerialized = true) ∧
      ∃ demanded, List.Forall₂ (Registration.Demands surface)
          (surface.methods.flatMap (·.signature)) demanded ∧
        (Registration.ofSurface surface).Nodup ∧
        (∀ text, text ∈ Registration.ofSurface surface ↔
          (∃ texts ∈ demanded, text ∈ texts) ∨ text ∈ surface.namedTexts) ∧
        (Registration.ofSurface surface).Pairwise fun a b =>
          (demanded.flatten ++ surface.namedTexts).idxOf a <
            (demanded.flatten ++ surface.namedTexts).idxOf b := by
  refine ⟨fun method _ => ⟨fun entries hmade => ?_, Method.exists_bindingEntries_iff.2⟩,
    TypeRef.crossing_eq_iff, ?_⟩
  · have htexts := Method.texts_eq hmade
    by_cases hawaits : method.Awaits
    · exact .inl (htexts.1 hawaits)
    · exact .inr (htexts.2 hawaits)
  · have hregistered : Registration.ofSurface surface = Registration.distinct
        (((surface.methods.flatMap (·.signature)).map (Registration.ofRef surface)).flatten ++
          surface.namedTexts) := by
      rw [← List.flatMap_def]
      rfl
    refine ⟨(surface.methods.flatMap (·.signature)).map (Registration.ofRef surface), ?_, ?_, ?_, ?_⟩
    · rw [List.forall₂_map_right_iff, List.forall₂_same]
      exact fun ref _ => Registration.demands_ofRef ref
    · exact Registration.nodup_distinct _
    · intro text
      rw [hregistered, Registration.mem_distinct_iff, List.mem_append, List.mem_flatten]
    · rw [hregistered]
      exact Registration.pairwise_distinct _

example : Registration.ofSurface listSurface =
    ["(global::lists.Node, byte)", "global::lists.Node", "global::lists.Colour"] := by
  decide +kernel

end ScriptBridge
