import ScriptBridge.Proofs.Outcome
import ScriptBridge.Proofs.TypeRef.Resolution

/-!
# What a described type mentions

A described type mentions what the readable members and the declared bases of its declaration mention,
and an enumeration mentions nothing.
-/

namespace ScriptBridge

/-- What the declaration of an object type refers to: the types of its members that are neither static
nor computed, and those of its bases that are declared types. -/
inductive Registry.Refers (registry : Registry) (decl : TypeDecl) : TypeRef → Prop
  | member {member : MemberDecl} {ref : TypeRef} :
    member ∈ decl.members → member.isStatic = false → member.isComputed = false →
    registry.resolveValue member.type decl.space.display decl.parameterNames = .ok ref →
    Refers registry decl ref
  | base {base : Value} {ref : TypeRef} :
    base ∈ decl.bases →
    registry.resolveValue base decl.space.display decl.parameterNames = .ok ref →
    ref.identity?.isSome = true →
    Refers registry decl ref

/-- A declared type mentions the types that its bases and its members mention. -/
def DeclaredType.Mentions (type : DeclaredType) (identity : TypeIdentity) : Prop :=
  (∃ base ∈ type.bases, base.Mentions identity) ∨
    ∃ member ∈ type.members, member.type.Mentions identity

theorem DeclaredType.mem_references_iff {type : DeclaredType} {identity : TypeIdentity} :
    identity ∈ type.references ↔ type.Mentions identity := by
  simp only [references, List.mem_flatMap, List.mem_append, List.mem_map, or_and_right, exists_or,
    TypeRef.mem_identities_iff, DeclaredType.Mentions]
  refine or_congr_right ⟨?_, ?_⟩
  · rintro ⟨_, ⟨member, hmember, rfl⟩, hmentions⟩
    exact ⟨member, hmember, hmentions⟩
  · rintro ⟨member, hmember, hmentions⟩
    exact ⟨member.type, ⟨member, hmember, rfl⟩, hmentions⟩

section Members

variable {registry : Registry} {decl : TypeDecl} {ref : TypeRef}

theorem MemberDecl.isReadable_iff {member : MemberDecl} :
    member.isReadable = true ↔ member.isStatic = false ∧ member.isComputed = false := by
  simp [isReadable]

theorem exists_member_iff {members : List Member} (hmembers : membersOf registry decl = .ok members) :
    (∃ member ∈ members, member.type = ref) ↔
      ∃ member ∈ decl.members, member.isReadable = true ∧
        registry.resolveValue member.type decl.space.display decl.parameterNames = .ok ref := by
  unfold membersOf at hmembers
  constructor
  · rintro ⟨member, hmember, rfl⟩
    obtain ⟨given, hgiven, hmake⟩ := Outcome.exists_of_mem_results hmembers hmember
    obtain ⟨type, htype, hmake⟩ := Outcome.bind_eq_ok_iff.1 hmake
    obtain ⟨name, -, hmake⟩ := Outcome.bind_eq_ok_iff.1 hmake
    cases hmake
    exact ⟨given, List.mem_of_mem_filter hgiven, (List.mem_filter.1 hgiven).2, htype⟩
  · rintro ⟨given, hgiven, hreadable, hresolve⟩
    have hmem : given ∈ decl.members.filter (·.isReadable) := List.mem_filter.2 ⟨hgiven, hreadable⟩
    obtain ⟨member, hmember, hmake⟩ := Outcome.exists_result_of_mem hmembers hmem
    obtain ⟨type, htype, hmake⟩ := Outcome.bind_eq_ok_iff.1 hmake
    obtain ⟨name, -, hmake⟩ := Outcome.bind_eq_ok_iff.1 hmake
    cases hmake
    exact ⟨_, hmember, Except.ok.inj (htype.symm.trans hresolve)⟩

theorem mem_bases_iff {bases : List TypeRef} (hbases : basesOf registry decl = .ok bases) :
    ref ∈ bases ↔
      ref.identity?.isSome = true ∧ ∃ base ∈ decl.bases,
        registry.resolveValue base decl.space.display decl.parameterNames = .ok ref := by
  obtain ⟨refs, hrefs, hfilter⟩ := Outcome.bind_eq_ok_iff.1 hbases
  cases hfilter
  rw [List.mem_filter, and_comm]
  refine and_congr_right fun _ => ⟨?_, ?_⟩
  · exact fun hmem => Outcome.exists_of_mem_results hrefs hmem
  · rintro ⟨base, hbase, hresolve⟩
    obtain ⟨other, hother, hsame⟩ := Outcome.exists_result_of_mem hrefs hbase
    exact Except.ok.inj (hsame.symm.trans hresolve) ▸ hother

end Members

/-- Each argument has the type of its parameter. -/
theorem types_of_argumentsOf {registry : Registry} {space : String} {decls : List ParameterDecl}
    {arguments : List Argument} (harguments : argumentsOf registry space decls = .ok arguments) :
    decls.map (fun decl => registry.resolveValue decl.type space []) =
      arguments.map (fun argument => .ok argument.type) := by
  refine Outcome.map_eq_map_of_mapM harguments fun given _ argument hmake => ?_
  obtain ⟨type, htype, hmake⟩ := Outcome.bind_eq_ok_iff.1 hmake
  split at hmake
  · cases hmake
    exact htype
  · split at hmake
    · cases hmake
      exact htype
    · cases hmake

variable {registry : Registry} {identity : TypeIdentity} {decl : TypeDecl} {scriptSpace : String}
  {type : DeclaredType}

/-- A described type is an enumeration, or an object type with the members and bases of its
declaration. -/
theorem shape_of_describe (hdescribe : describe registry identity decl scriptSpace = .ok type) :
    (decl.kind = .enumeration ∧ type.shape = .enumeration (valuesFrom 0 decl.items)) ∨
      (decl.kind = .object ∧ ∃ members bases, membersOf registry decl = .ok members ∧
        basesOf registry decl = .ok bases ∧ type.shape = .object decl.parameters members bases) := by
  obtain ⟨shape, hshape, hmake⟩ := Outcome.bind_eq_ok_iff.1 hdescribe
  cases hmake
  unfold shapeOf at hshape
  cases hkind : decl.kind with
  | enumeration =>
    rw [hkind] at hshape
    cases hshape
    exact .inl ⟨rfl, rfl⟩
  | object =>
    rw [hkind] at hshape
    obtain ⟨members, hmembers, hrest⟩ := Outcome.bind_eq_ok_iff.1 hshape
    obtain ⟨bases, hbases, hmake⟩ := Outcome.bind_eq_ok_iff.1 hrest
    cases hmake
    exact .inr ⟨rfl, members, bases, hmembers, hbases, rfl⟩

theorem mentions_iff_of_describe (hdescribe : describe registry identity decl scriptSpace = .ok type)
    {mentioned : TypeIdentity} :
    type.Mentions mentioned ↔
      decl.kind = .object ∧ ∃ ref, registry.Refers decl ref ∧ ref.Mentions mentioned := by
  rcases shape_of_describe hdescribe with ⟨hkind, hshape⟩ | ⟨hkind, members, bases, hmembers, hbases, hshape⟩
  · simp [DeclaredType.Mentions, DeclaredType.bases, DeclaredType.members, hshape, hkind]
  · simp only [DeclaredType.Mentions, DeclaredType.bases, DeclaredType.members, hshape, hkind,
      true_and]
    constructor
    · rintro (⟨base, hbase, hmentions⟩ | ⟨member, hmember, hmentions⟩)
      · obtain ⟨hidentity, given, hgiven, hresolve⟩ := (mem_bases_iff hbases).1 hbase
        exact ⟨base, .base hgiven hresolve hidentity, hmentions⟩
      · obtain ⟨given, hgiven, hreadable, hresolve⟩ :=
          (exists_member_iff hmembers).1 ⟨member, hmember, rfl⟩
        obtain ⟨hstatic, hcomputed⟩ := MemberDecl.isReadable_iff.1 hreadable
        exact ⟨member.type, .member hgiven hstatic hcomputed hresolve, hmentions⟩
    · rintro ⟨ref, hrefers, hmentions⟩
      cases hrefers with
      | member hgiven hstatic hcomputed hresolve =>
        have hreadable := MemberDecl.isReadable_iff.2 ⟨hstatic, hcomputed⟩
        obtain ⟨member, hmember, rfl⟩ :=
          (exists_member_iff hmembers).2 ⟨_, hgiven, hreadable, hresolve⟩
        exact .inr ⟨member, hmember, hmentions⟩
      | base hgiven hresolve hidentity =>
        exact .inl ⟨ref, (mem_bases_iff hbases).2 ⟨hidentity, _, hgiven, hresolve⟩, hmentions⟩

theorem isDeclared_of_refers {ref : TypeRef} (hrefers : registry.Refers decl ref)
    (hmentions : ref.Mentions identity) : registry.IsDeclared identity := by
  cases hrefers with
  | member _ _ _ hresolve => exact Registry.isDeclared_of_mentions_resolveValue hresolve hmentions
  | base _ hresolve _ => exact Registry.isDeclared_of_mentions_resolveValue hresolve hmentions

end ScriptBridge
