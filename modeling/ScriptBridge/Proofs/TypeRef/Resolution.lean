import Mathlib
import ScriptBridge.Proofs.TypeRef.Arities
import ScriptBridge.Proofs.TypeRef.KnownNames
import ScriptBridge.Proofs.TypeRef.Mentions

/-!
# What expressions resolve to

Expressions resolve to references of a few forms only, made of one another. What holds of all of these
holds of whatever is resolved.
-/

namespace ScriptBridge

/-- A reference is part of another, at any depth: that reference itself, or part of what it wraps,
holds, results in or is applied to. -/
inductive TypeRef.PartOf (part : TypeRef) : TypeRef → Prop
  | here : PartOf part part
  | nullable {inner : TypeRef} : PartOf part inner → PartOf part (.nullable inner)
  | element {element : TypeRef} {collection : String} :
    PartOf part element → PartOf part (.array element collection)
  | key {key value : TypeRef} {collection : String} :
    PartOf part key → PartOf part (.map key value collection)
  | value {key value : TypeRef} {collection : String} :
    PartOf part value → PartOf part (.map key value collection)
  | result {inner : TypeRef} : PartOf part inner → PartOf part (.taskOf inner)
  | argument {identity : TypeIdentity} {args : List TypeRef} {arg : TypeRef} :
    arg ∈ args → PartOf part arg → PartOf part (.generic identity args)
  | applied {managed : String} {args : List TypeRef} {arg : TypeRef} :
    arg ∈ args → PartOf part arg → PartOf part (.unknown managed args)

/-- A primitive type whose native arrays are typed arrays in script. -/
def TypeRef.IsInteger (ref : TypeRef) : Prop :=
  ∃ managed bucket, ref = .primitive bucket managed ∧
    managed ∈ Known.typedArrays.map Prod.fst

namespace Registry

/-! ### What is found under a name -/

section Lookup

variable {registry : Registry} {name space : String} {arity : Nat} {decl : TypeDecl}

/-- What a name without arguments finds has no type parameters. -/
theorem arity_eq_zero_of_lookup? (hlookup : registry.lookup? name space 0 = some decl)
    (hname : '\x60' ∉ name.toList) : decl.identity.arity = 0 := by
  by_contra harity
  refine harity (arity_of_lookup? hlookup hname fun hnil => harity ?_)
  exact congrArg List.length hnil

/-- What a name with arguments finds has as many type parameters. Only a declaration without them, with
a mark of its own in its name, is taken for one that has them. -/
theorem arity_eq_or_of_lookup? (hlookup : registry.lookup? name space arity = some decl)
    (hname : '\x60' ∉ name.toList) :
    arity = decl.identity.arity ∨
      decl.identity.arity = 0 ∧ '\x60' ∈ decl.identity.fullName.toList := by
  by_cases hparameters : decl.parameters = []
  · have hown : decl.identity.arity = 0 := congrArg List.length hparameters
    by_cases harity : arity = 0
    · exact .inl (harity.trans hown.symm)
    · obtain ⟨key, hkey, hfind⟩ := List.exists_of_findSome?_eq_some hlookup
      obtain ⟨parts, -, rfl⟩ := List.mem_map.1 hkey
      have hfull := key_identity_of_find? hfind
      rw [TypeIdentity.key, hown, TypeIdentity.keyOf, if_pos rfl, TypeIdentity.keyOf,
        if_neg harity] at hfull
      refine .inr ⟨hown, ?_⟩
      rw [hfull]
      simp
  · exact .inl (arity_of_lookup? hlookup hname hparameters).symm

end Lookup

/-! ### What expressions give -/

/-- The references that expressions resolve to, with some type parameters in scope. -/
inductive Gives (registry : Registry) (parameters : List String) : TypeRef → Prop
  | parameter {name : String} :
    name ∈ parameters → (∀ c ∈ name.toList, TypeExpr.IsNameChar c) →
    Gives registry parameters (.parameter name)
  | custom {identity : TypeIdentity} :
    registry.IsDeclared identity → identity.arity = 0 →
    Gives registry parameters (.custom identity)
  | generic {identity : TypeIdentity} {args : List TypeRef} :
    registry.IsDeclared identity → args ≠ [] →
    (args.length = identity.arity ∨ identity.arity = 0 ∧ '\x60' ∈ identity.fullName.toList) →
    (∀ arg ∈ args, Gives registry parameters arg) →
    Gives registry parameters (.generic identity args)
  | primitive {managed : String} {bucket : Bucket} :
    (managed, bucket) ∈ Known.primitives → Gives registry parameters (.primitive bucket managed)
  | typedArray {managed : String} {bucket : Bucket} :
    (managed, bucket) ∈ Known.typedArrays →
    Gives registry parameters (.primitive bucket (managed ++ "[]"))
  | nullable {inner : TypeRef} :
    inner.isNullable = false → Gives registry parameters inner →
    Gives registry parameters (.nullable inner)
  | nativeArray {element : TypeRef} :
    ¬ element.IsInteger → Gives registry parameters element →
    Gives registry parameters (.array element "")
  | listOf {element : TypeRef} {collection : String} :
    collection ∈ Known.listCollections → Gives registry parameters element →
    Gives registry parameters (.array element collection)
  | map {key value : TypeRef} {collection : String} :
    collection ∈ Known.mapCollections → Gives registry parameters key →
    Gives registry parameters value → Gives registry parameters (.map key value collection)
  | task : Gives registry parameters .task
  | taskOf {inner : TypeRef} :
    Gives registry parameters inner → Gives registry parameters (.taskOf inner)
  | unknown {managed : String} {args : List TypeRef} :
    (∀ arg ∈ args, Gives registry parameters arg) →
    Gives registry parameters (.unknown managed args)

section Gives

variable {registry : Registry} {parameters : List String} {space name : String}

theorem Gives.nullableOf {inner : TypeRef} (hinner : registry.Gives parameters inner) :
    registry.Gives parameters (Known.nullableOf inner) := by
  unfold Known.nullableOf
  split
  · exact hinner
  · rename_i hplain
    exact .nullable (eq_false_of_ne_true hplain) hinner

theorem Gives.arrayOf {element : TypeRef} (helement : registry.Gives parameters element) :
    registry.Gives parameters (Known.arrayOf element) := by
  unfold Known.arrayOf
  split
  · rename_i bucket managed
    split
    · rename_i typed hlookup
      exact .typedArray (Known.mem_of_lookup_eq_some hlookup)
    · rename_i hnone
      refine .nativeArray ?_ helement
      rintro ⟨_, _, heq, hinteger⟩
      cases heq
      obtain ⟨entry, hentry, rfl⟩ := List.mem_map.1 hinteger
      exact absurd (List.lookup_eq_none_iff.1 hnone entry hentry) (by simp)
  · rename_i hplain
    refine .nativeArray ?_ helement
    rintro ⟨managed, bucket, rfl, -⟩
    exact hplain bucket managed rfl

theorem Gives.apply {args : List TypeRef} (hargs : ∀ arg ∈ args, registry.Gives parameters arg)
    (full : String) : registry.Gives parameters (Known.apply full args) := by
  unfold Known.apply
  split
  · split
    · rename_i bucket hlookup
      exact .primitive (Known.mem_of_lookup_eq_some hlookup)
    · split
      · exact .task
      · exact .unknown hargs
  · rename_i arg
    have harg := hargs arg List.mem_cons_self
    split
    · exact harg.nullableOf
    · split
      · rename_i hlist
        exact .listOf (List.contains_iff_mem.1 hlist) harg
      · split
        · exact .taskOf harg
        · exact .unknown hargs
  · rename_i key value
    split
    · rename_i hmap
      exact .map (List.contains_iff_mem.1 hmap) (hargs key (by simp)) (hargs value (by simp))
    · exact .unknown hargs
  · exact .unknown hargs

theorem Gives.foldl_withSuffix {ref : TypeRef} (href : registry.Gives parameters ref)
    (suffixes : List TypeExpr.Suffix) :
    registry.Gives parameters (suffixes.foldl withSuffix ref) := by
  induction suffixes generalizing ref with
  | nil => exact href
  | cons suffix suffixes ih =>
    cases suffix with
    | nullable => exact ih href.nullableOf
    | array => exact ih href.arrayOf

theorem gives_named {args : List TypeRef} (hname : ∀ c ∈ name.toList, TypeExpr.IsNameChar c)
    (hargs : ∀ arg ∈ args, registry.Gives parameters arg) :
    registry.Gives parameters (registry.named space parameters name args) := by
  have hunmarked : '\x60' ∉ name.toList := fun hmem =>
    TypeExpr.not_isNameChar_backquote (hname _ hmem)
  unfold named
  split
  · rename_i hparameter
    rw [Bool.and_eq_true, List.contains_iff_mem] at hparameter
    exact .parameter hparameter.2 hname
  · split
    · rename_i decl hlookup
      split
      · rename_i hempty
        rw [List.isEmpty_iff.1 hempty] at hlookup
        exact .custom (isDeclared_of_lookup? hlookup) (arity_eq_zero_of_lookup? hlookup hunmarked)
      · rename_i hargsNe
        exact .generic (isDeclared_of_lookup? hlookup) (by simpa using hargsNe)
          (arity_eq_or_of_lookup? hlookup hunmarked) hargs
    · split
      · exact .apply hargs _
      · exact .unknown hargs

mutual

theorem gives_resolve : ∀ expr : TypeExpr, expr.Plain →
    registry.Gives parameters (registry.resolve space parameters expr)
  | .mk name args suffixes, hplain => by
    cases hplain with
    | mk hname hargs =>
      rw [resolve]
      exact (gives_named hname (gives_resolveAll args hargs)).foldl_withSuffix suffixes

theorem gives_resolveAll : ∀ exprs : List TypeExpr, (∀ expr ∈ exprs, expr.Plain) →
    ∀ ref ∈ registry.resolveAll space parameters exprs, registry.Gives parameters ref
  | [], _ => fun _ hmem => nomatch hmem
  | expr :: exprs, hplain => by
    obtain ⟨hfirst, hothers⟩ := List.forall_mem_cons.1 hplain
    rw [resolveAll]
    exact List.forall_mem_cons.2 ⟨gives_resolve expr hfirst, gives_resolveAll exprs hothers⟩

end

theorem gives_of_resolveText {text : String} {ref : TypeRef}
    (hresolve : registry.resolveText text space parameters = .ok ref) :
    registry.Gives parameters ref := by
  obtain ⟨expr, hparse, rfl⟩ := resolveText_eq_ok_iff.1 hresolve
  exact gives_resolve expr (TypeExpr.plain_of_parse hparse)

theorem gives_of_resolveValue {given : Value} {ref : TypeRef}
    (hresolve : registry.resolveValue given space parameters = .ok ref) :
    registry.Gives parameters ref := by
  obtain ⟨text, expr, -, hparse, rfl⟩ := resolveValue_eq_ok_iff.1 hresolve
  exact gives_resolve expr (TypeExpr.plain_of_parse hparse)

/-! ### What is in what expressions give -/

/-- Parts of what expressions give are given by expressions. -/
theorem Gives.of_partOf {part ref : TypeRef} (hpart : part.PartOf ref)
    (hgives : registry.Gives parameters ref) : registry.Gives parameters part := by
  induction hpart with
  | here => exact hgives
  | nullable _ ih =>
    cases hgives with
    | nullable _ hinner => exact ih hinner
  | element _ ih =>
    cases hgives with
    | nativeArray _ helement => exact ih helement
    | listOf _ helement => exact ih helement
  | key _ ih =>
    cases hgives with
    | map _ hkey _ => exact ih hkey
  | value _ ih =>
    cases hgives with
    | map _ _ hvalue => exact ih hvalue
  | result _ ih =>
    cases hgives with
    | taskOf hinner => exact ih hinner
  | argument hmem _ ih =>
    cases hgives with
    | generic _ _ _ hargs => exact ih (hargs _ hmem)
  | applied hmem _ ih =>
    cases hgives with
    | unknown hargs => exact ih (hargs _ hmem)

/-- Whatever is named in what expressions give is declared. -/
theorem Gives.isDeclared_of_names {ref : TypeRef} (hgives : registry.Gives parameters ref)
    {identity : TypeIdentity} (hnames : ref.Names identity) : registry.IsDeclared identity := by
  induction hgives with
  | parameter => cases hnames
  | custom hdeclared _ =>
    cases hnames
    exact hdeclared
  | generic hdeclared _ _ _ ih =>
    cases hnames with
    | generic => exact hdeclared
    | argument hmem harg => exact ih _ hmem harg
  | primitive => cases hnames
  | typedArray => cases hnames
  | nullable _ _ ih =>
    cases hnames with
    | nullable hinner => exact ih hinner
  | nativeArray _ _ ih =>
    cases hnames with
    | element helement => exact ih helement
  | listOf _ _ ih =>
    cases hnames with
    | element helement => exact ih helement
  | map _ _ _ ihKey ihValue =>
    cases hnames with
    | key hkey => exact ihKey hkey
    | value hvalue => exact ihValue hvalue
  | task => cases hnames
  | taskOf _ ih =>
    cases hnames with
    | result hinner => exact ih hinner
  | unknown _ ih =>
    cases hnames with
    | applied hmem harg => exact ih _ hmem harg

theorem isDeclared_of_names_resolveValue {given : Value} {ref : TypeRef} {identity : TypeIdentity}
    (hresolve : registry.resolveValue given space parameters = .ok ref)
    (hnames : ref.Names identity) : registry.IsDeclared identity :=
  (gives_of_resolveValue hresolve).isDeclared_of_names hnames

theorem isDeclared_of_mentions_resolveValue {given : Value} {ref : TypeRef} {identity : TypeIdentity}
    (hresolve : registry.resolveValue given space parameters = .ok ref)
    (hmentions : ref.Mentions identity) : registry.IsDeclared identity :=
  isDeclared_of_names_resolveValue hresolve hmentions.names

end Gives

end Registry

end ScriptBridge
