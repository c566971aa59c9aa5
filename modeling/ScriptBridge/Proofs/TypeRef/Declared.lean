import ScriptBridge.Surface.Discovery

/-!
# Declared types are found again

Whatever is found by a key is found again under the key of its identity.
-/

namespace ScriptBridge

namespace TypeDecl

theorem key_identity_of_key {decl : TypeDecl} {key : String} (hkey : decl.key = .text key) :
    decl.identity.key = key := by
  unfold TypeDecl.key at hkey
  split at hkey
  · exact Value.text.inj hkey
  · rename_i hplain
    simp only [Bool.or_eq_true, bne_iff_ne, ne_eq, not_or, Bool.not_eq_true, Decidable.not_not]
      at hplain
    have hspace : decl.identity.space.isTruthy = false := hplain.1
    have harity : decl.identity.arity = 0 := hplain.2
    have hname : decl.identity.name = .text key := hkey
    simp [TypeIdentity.key, TypeIdentity.keyOf, TypeIdentity.fullName, hspace, harity, hname,
      Value.display]

end TypeDecl

namespace Registry

variable {registry : Registry} {identity : TypeIdentity}

theorem key_of_find? {key : String} {decl : TypeDecl} (hfind : registry.find? key = some decl) :
    decl.key = .text key := by
  simpa using List.find?_some hfind

theorem key_identity_of_find? {key : String} {decl : TypeDecl}
    (hfind : registry.find? key = some decl) : decl.identity.key = key :=
  TypeDecl.key_identity_of_key (key_of_find? hfind)

/-- A declaration stands under the key of the identity and has that identity. -/
def IsDeclared (registry : Registry) (identity : TypeIdentity) : Prop :=
  ∃ decl, registry.find? identity.key = some decl ∧ decl.identity = identity

theorem isDeclared_of_find? {key : String} {decl : TypeDecl}
    (hfind : registry.find? key = some decl) : registry.IsDeclared decl.identity :=
  ⟨decl, (key_identity_of_find? hfind).symm ▸ hfind, rfl⟩

theorem isDeclared_of_lookup? {name space : String} {arity : Nat} {decl : TypeDecl}
    (hlookup : registry.lookup? name space arity = some decl) : registry.IsDeclared decl.identity := by
  obtain ⟨key, _, hfind⟩ := List.exists_of_findSome?_eq_some hlookup
  exact isDeclared_of_find? hfind

theorem IsDeclared.identity_of_find? {decl : TypeDecl} (hidentity : registry.IsDeclared identity)
    (hfind : registry.find? identity.key = some decl) : decl.identity = identity := by
  obtain ⟨first, hfirst, hsame⟩ := hidentity
  rw [hfind] at hfirst
  rw [Option.some.inj hfirst, hsame]

/-- Two declared identities of one key are the same. -/
theorem IsDeclared.eq_of_key_eq {other : TypeIdentity} (hidentity : registry.IsDeclared identity)
    (hother : registry.IsDeclared other) (hkey : identity.key = other.key) : identity = other := by
  obtain ⟨decl, hdecl, rfl⟩ := hidentity
  obtain ⟨found, hfound, rfl⟩ := hother
  rw [hkey, hfound] at hdecl
  rw [Option.some.inj hdecl]

/-! ### Texts and values that are resolved -/

section Resolved

variable {space : String} {parameters : List String}

theorem resolveText_eq_ok_iff {text : String} {ref : TypeRef} :
    registry.resolveText text space parameters = .ok ref ↔
      ∃ expr, TypeExpr.parse text = .ok expr ∧ registry.resolve space parameters expr = ref := by
  rw [resolveText]
  constructor
  · intro hresolve
    split at hresolve
    · rename_i expr hparse
      exact ⟨expr, hparse, Except.ok.inj hresolve⟩
    · cases hresolve
  · rintro ⟨expr, hparse, rfl⟩
    rw [hparse]

theorem resolveValue_eq_ok_iff {given : Value} {ref : TypeRef} :
    registry.resolveValue given space parameters = .ok ref ↔
      ∃ text expr, given = .text text ∧ TypeExpr.parse text = .ok expr ∧
        registry.resolve space parameters expr = ref := by
  constructor
  · intro hresolve
    cases given with
    | text text =>
      obtain ⟨expr, hparse, href⟩ := resolveText_eq_ok_iff.1 hresolve
      exact ⟨text, expr, rfl, hparse, href⟩
    | _ => cases hresolve
  · rintro ⟨text, expr, rfl, hparse, href⟩
    exact resolveText_eq_ok_iff.2 ⟨expr, hparse, href⟩

end Resolved

end Registry

end ScriptBridge
