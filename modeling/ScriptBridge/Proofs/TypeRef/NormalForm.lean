import Mathlib
import ScriptBridge.Proofs.TypeRef.Resolution

/-!
# The form of resolved references

Nothing that is resolved is nullable twice, arrays of integers are typed arrays wherever they can be,
known names come from their tables, and declared types have as many arguments as they ask for, at every
depth.
-/

namespace ScriptBridge

/-- No declared namespace or name holds the mark that stands before a number of parameters. -/
def Registry.Unmarked (registry : Registry) : Prop :=
  ∀ decl ∈ registry.decls, '\x60' ∉ decl.space.display.toList ∧ '\x60' ∉ decl.name.display.toList

/-- A reference has the form that resolving gives it. This is about the reference itself, not about its
parts. -/
def TypeRef.IsNormal (registry : Registry) (parameters : List String) : TypeRef → Prop
  | .primitive bucket managed =>
    (managed, bucket) ∈ Known.primitives ∨
      ∃ integer, (integer, bucket) ∈ Known.typedArrays ∧ managed = integer ++ "[]"
  | .nullable inner => ∀ twice, inner ≠ .nullable twice
  | .array element collection =>
    (collection = "" ∧ ¬ element.IsInteger) ∨ collection ∈ Known.listCollections
  | .map _ _ collection => collection ∈ Known.mapCollections
  | .generic identity args =>
    registry.IsDeclared identity ∧ args ≠ [] ∧
      (registry.Unmarked → args.length = identity.arity)
  | .custom identity => registry.IsDeclared identity ∧ identity.arity = 0
  | .parameter name => name ∈ parameters
  | .task | .taskOf _ | .unknown .. => True

namespace Registry

variable {registry : Registry} {parameters : List String}

theorem Unmarked.not_mem_fullName (hunmarked : registry.Unmarked) {identity : TypeIdentity}
    (hdeclared : registry.IsDeclared identity) : '\x60' ∉ identity.fullName.toList := by
  obtain ⟨decl, hfind, rfl⟩ := hdeclared
  obtain ⟨hspace, hname⟩ := hunmarked decl (List.mem_of_find?_eq_some hfind)
  unfold TypeIdentity.fullName
  split
  · rw [String.toList_append, String.toList_append, List.mem_append, List.mem_append]
    rintro ((hmem | hmem) | hmem)
    · exact hspace hmem
    · exact absurd (List.mem_singleton.1 hmem) (by decide)
    · exact hname hmem
  · exact hname

theorem Gives.isNormal {ref : TypeRef} (hgives : registry.Gives parameters ref) :
    ref.IsNormal registry parameters := by
  cases hgives with
  | parameter hname _ => exact hname
  | custom hdeclared harity => exact ⟨hdeclared, harity⟩
  | generic hdeclared hne hlength _ =>
    refine ⟨hdeclared, hne, fun hunmarked => hlength.resolve_right ?_⟩
    exact fun hmarked => hunmarked.not_mem_fullName hdeclared hmarked.2
  | primitive htable => exact .inl htable
  | typedArray htable => exact .inr ⟨_, htable, rfl⟩
  | nullable hplain _ =>
    rintro twice rfl
    cases hplain
  | nativeArray hinteger _ => exact .inl ⟨rfl, hinteger⟩
  | listOf hcollection _ => exact .inr hcollection
  | map hcollection _ _ => exact hcollection
  | task => trivial
  | taskOf _ => trivial
  | unknown _ => trivial

/-- Whatever a text resolves to is in normal form at every depth. -/
theorem isNormal_of_resolveText {registry : Registry} {text space : String}
    {parameters : List String} {ref : TypeRef}
    (hresolve : registry.resolveText text space parameters = .ok ref) :
    ∀ part : TypeRef, part.PartOf ref → part.IsNormal registry parameters := by
  intro part hpart
  exact ((gives_of_resolveText hresolve).of_partOf hpart).isNormal

end Registry

/-! ### Barrels -/

/-- A type with one type parameter. -/
def barrelDecl : TypeDecl where
  kind := .object
  space := .text "cellar"
  name := .text "Barrel"
  parameters := [.text "T"]
  members := []
  items := []
  bases := []
  isValueType := false

def cellarRegistry : Registry where
  decls := [barrelDecl]

def barrelRef : TypeRef :=
  .generic barrelDecl.identity [.nullable (.primitive .int8Array "System.SByte[]")]

/-- What `Dictionary<T, Barrel<sbyte[]?>>?` refers to. -/
def barrelsRef : TypeRef :=
  .nullable (.map (.parameter "T") barrelRef "System.Collections.Generic.Dictionary")

theorem resolve_barrels :
    cellarRegistry.resolveText "Dictionary<T, Barrel<sbyte[]?>>?" "cellar" ["T"] = .ok barrelsRef :=
  Registry.resolveText_eq_ok_iff.2
    ⟨.mk "Dictionary" [.mk "T" [] [], .mk "Barrel" [.mk "sbyte" [] [.array, .nullable]] []]
      [.nullable], by cbv, by decide +kernel⟩

theorem isNormal_barrelsRef :
    cellarRegistry.resolveText "Dictionary<T, Barrel<sbyte[]?>>?" "cellar" ["T"] = .ok barrelsRef ∧
      barrelsRef.IsNormal cellarRegistry ["T"] ∧ barrelRef.PartOf barrelsRef ∧
      barrelRef.IsNormal cellarRegistry ["T"] :=
  have hbarrel : barrelRef.PartOf barrelsRef := .nullable (.value .here)
  ⟨resolve_barrels, Registry.isNormal_of_resolveText resolve_barrels _ .here, hbarrel,
    Registry.isNormal_of_resolveText resolve_barrels _ hbarrel⟩

end ScriptBridge
