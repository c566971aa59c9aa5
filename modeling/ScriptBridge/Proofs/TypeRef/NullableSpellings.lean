import Mathlib
import ScriptBridge.Proofs.TypeExpr.Composition
import ScriptBridge.Proofs.TypeRef.Declared
import ScriptBridge.Proofs.TypeRef.KnownNames

/-!
# Spellings of nullable types

`?` after a type and `System.Nullable` applied to it say the same, and saying it again changes nothing.
-/

namespace ScriptBridge

namespace Known

theorem nullableOf_nullableOf (inner : TypeRef) :
    nullableOf (nullableOf inner) = nullableOf inner := by
  unfold nullableOf
  by_cases hnullable : inner.isNullable = true
  · rw [if_pos hnullable, if_pos hnullable]
  · rw [if_neg hnullable]
    exact if_pos rfl

theorem nullableOf_of_ne {inner : TypeRef} (hplain : ∀ twice, inner ≠ .nullable twice) :
    nullableOf inner = .nullable inner := by
  cases inner with
  | nullable twice => exact absurd rfl (hplain twice)
  | _ => rfl

theorem fullName?_nullable : fullName? nullable = some nullable :=
  fullName?_of_mem_fullNames nullable (by decide +kernel)

end Known

/-- `System.Nullable` as it is written. -/
def TypeExpr.nullableName : TypeExpr.QualifiedName :=
  .qualified ⟨.word "System", 'S', "ystem".toList, rfl, .inl (by decide +kernel)⟩ .dot
    (.single ⟨.word "Nullable", 'N', "ullable".toList, rfl, .inl (by decide +kernel)⟩)

theorem TypeExpr.lexes_nullableName :
    Lexes Known.nullable.toList nullableName.tokens := by
  have htext : Known.nullable.toList =
      ['S', 'y', 's', 't', 'e', 'm', '.', 'N', 'u', 'l', 'l', 'a', 'b', 'l', 'e'] := by rfl
  rw [lexes_iff, htext]
  cbv

namespace Registry

variable {registry : Registry} {space text : String} {parameters : List String} {ref : TypeRef}

/-- A text with a suffix after it refers to what the suffix makes of what the text refers to. -/
theorem resolveText_append_suffix (hresolve : registry.resolveText text space parameters = .ok ref)
    (suffix : TypeExpr.Suffix) :
    registry.resolveText (text ++ suffix.text) space parameters = .ok (withSuffix ref suffix) := by
  obtain ⟨⟨name, args, suffixes⟩, hparse, rfl⟩ := resolveText_eq_ok_iff.1 hresolve
  refine resolveText_eq_ok_iff.2 ⟨_, TypeExpr.parse_append_suffix hparse suffix, ?_⟩
  rw [resolve, resolve, List.foldl_append]
  rfl

/-- `System.Nullable`, unless something is declared by that name, makes its argument nullable. -/
theorem resolveText_nullable (hresolve : registry.resolveText text space parameters = .ok ref)
    (hundeclared : registry.lookup? Known.nullable space 1 = none) :
    registry.resolveText (Known.nullable ++ "<" ++ text ++ ">") space parameters =
      .ok (Known.nullableOf ref) := by
  obtain ⟨expr, hparse, rfl⟩ := resolveText_eq_ok_iff.1 hresolve
  refine resolveText_eq_ok_iff.2
    ⟨_, TypeExpr.parse_applied TypeExpr.lexes_nullableName hparse, ?_⟩
  have hname : TypeExpr.nullableName.text = Known.nullable := rfl
  rw [hname, resolve, resolveAll, resolveAll, List.foldl_nil, named, List.length_singleton,
    hundeclared, Known.fullName?_nullable]
  rfl

/-- However a text is made nullable, it refers to one reference: to what it refers to itself, made
nullable unless it is so already. -/
theorem resolveText_nullable_spellings {expr : TypeExpr}
    (hparse : TypeExpr.parse text = .ok expr)
    (hundeclared : registry.lookup? "System.Nullable" space 1 = none) :
    ∃ ref result, registry.resolveText text space parameters = .ok ref ∧
      (∀ inner, ref = .nullable inner → result = ref) ∧
      ((∀ inner, ref ≠ .nullable inner) → result = .nullable ref) ∧
      registry.resolveText ("System.Nullable<" ++ text ++ ">") space parameters = .ok result ∧
      registry.resolveText (text ++ "?") space parameters = .ok result ∧
      registry.resolveText ("System.Nullable<" ++ text ++ ">?") space parameters = .ok result ∧
      registry.resolveText (text ++ "??") space parameters = .ok result := by
  have hresolve : registry.resolveText text space parameters =
      .ok (registry.resolve space parameters expr) := resolveText_eq_ok_iff.2 ⟨expr, hparse, rfl⟩
  have happlied := resolveText_nullable hresolve hundeclared
  have hmarked := resolveText_append_suffix hresolve .nullable
  have hclosing : ">?" = ">" ++ "?" := rfl
  have hmarks : "??" = "?" ++ "?" := rfl
  refine ⟨_, _, hresolve, ?_, ?_, happlied, hmarked, ?_, ?_⟩
  · rintro inner hnullable
    rw [hnullable]
    rfl
  · exact Known.nullableOf_of_ne
  · rw [hclosing, ← String.append_assoc, ← Known.nullableOf_nullableOf]
    exact resolveText_append_suffix happlied .nullable
  · rw [hmarks, ← String.append_assoc, ← Known.nullableOf_nullableOf]
    exact resolveText_append_suffix hmarked .nullable

end Registry

/-- Something else is declared by the name, without type parameters. -/
def absenceDecl : TypeDecl where
  kind := .object
  space := .text "System"
  name := .text "Nullable"
  parameters := []
  members := []
  items := []
  bases := []
  isValueType := false

def absenceRegistry : Registry where
  decls := [absenceDecl]

theorem nullable_bytes_spelled :
    TypeExpr.parse " byte[ ] " = .ok (.mk "byte" [] [.array]) ∧
      absenceRegistry.lookup? "System.Nullable" "store" 1 = none ∧
      absenceRegistry.resolveText "System.Nullable< byte[ ] >?" "store" [] =
        .ok (.nullable (.primitive .uint8Array "System.Byte[]")) := by
  have hparse : TypeExpr.parse " byte[ ] " = .ok (.mk "byte" [] [.array]) := by cbv
  have hundeclared : absenceRegistry.lookup? "System.Nullable" "store" 1 = none := by decide +kernel
  obtain ⟨ref, result, href, -, hplain, -, -, hboth, -⟩ :=
    @Registry.resolveText_nullable_spellings absenceRegistry "store" " byte[ ] " [] _ hparse
      hundeclared
  have hbytes : absenceRegistry.resolveText " byte[ ] " "store" [] =
      .ok (.primitive .uint8Array "System.Byte[]") :=
    Registry.resolveText_eq_ok_iff.2 ⟨_, hparse, by decide +kernel⟩
  obtain rfl := Except.ok.inj (href.symm.trans hbytes)
  have hnotNullable : ∀ inner,
      TypeRef.primitive .uint8Array "System.Byte[]" ≠ .nullable inner := by
    rintro inner hinner
    cases hinner
  rw [hplain hnotNullable] at hboth
  exact ⟨hparse, hundeclared, hboth⟩

end ScriptBridge
