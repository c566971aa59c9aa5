import Mathlib.Logic.Relation
import ScriptBridge.Proofs.Surface.Reach
import ScriptBridge.Proofs.Surface.Selection
import ScriptBridge.Proofs.Surface.Steps

/-!
# Faults of methods and types

Where modules have texts where they should, discovery fails only for a namespace without an answer or for
a malformed expression, and only where it comes upon one: in a method that is taken, or in a type that
such a method reaches.
-/

namespace ScriptBridge

open Namespace

/-! ### Texts -/

theorem Value.exists_texts {parts : List Value} (hparts : ∀ part ∈ parts, part.isText = true) :
    ∃ texts, parts.mapM Value.asText? = some texts := by
  induction parts with
  | nil => exact ⟨[], rfl⟩
  | cons part parts ih =>
    obtain ⟨hpart, hrest⟩ := List.forall_mem_cons.1 hparts
    obtain ⟨text, rfl⟩ := Value.exists_text_of_isText hpart
    obtain ⟨texts, htexts⟩ := ih hrest
    exact ⟨text :: texts, by rw [List.mapM_cons, htexts]; rfl⟩

structure MethodDecl.Textual (decl : MethodDecl) : Prop where
  space : decl.space.isText = true
  owner : decl.owner.isTruthy = true → decl.owner.isText = true
  name : decl.name.isText = true
  parameters : ∀ parameter ∈ decl.parameters,
    parameter.name.isText = true ∧ parameter.type.isText = true
  returns : decl.returns.isText = true

structure TypeDecl.Textual (decl : TypeDecl) : Prop where
  space : decl.space.isText = true
  members : ∀ member ∈ decl.members, member.name.isText = true ∧ member.type.isText = true
  bases : ∀ base ∈ decl.bases, base.isText = true

/-- The names, the namespaces, the types and the bases in a module are texts. -/
structure Descriptor.Textual (module : Descriptor) : Prop where
  methods : ∀ decl ∈ module.methods, decl.Textual
  types : ∀ decl ∈ module.types, decl.Textual

/-! ### Faults -/

/-- The text is no type expression. -/
def Malformed (given : Value) (defect : Defect) : Prop :=
  ∃ text fault, given = .text text ∧ TypeExpr.parse text = .error fault ∧
    defect = .invalidExpression text fault

/-- The resolver has no answer for the namespace. -/
def Unanswered (resolver : Resolver) (given : Value) (defect : Defect) : Prop :=
  ∃ space, given = .text space ∧ resolver.answer space = .error (.rejected [] defect)

/-- What is wrong with the declaration of a type. Members without values in the instances, and the
members and bases of enumerations, are never wrong. -/
inductive TypeDecl.Fault (resolver : Resolver) (decl : TypeDecl) (defect : Defect) : Prop
  | space : Unanswered resolver decl.space defect → Fault resolver decl defect
  | member {member : MemberDecl} :
    decl.kind = .object → member ∈ decl.members → member.isStatic = false →
    member.isComputed = false → Malformed member.type defect → Fault resolver decl defect
  | base {base : Value} :
    decl.kind = .object → base ∈ decl.bases → Malformed base defect → Fault resolver decl defect

/-- What is wrong with the signature of a method. -/
inductive MethodDecl.Fault (decl : MethodDecl) (defect : Defect) : Prop
  | parameter {parameter : ParameterDecl} :
    parameter ∈ decl.parameters → Malformed parameter.type defect → Fault decl defect
  | returns : Malformed decl.returns defect → Fault decl defect

/-- The signature of a method mentions a declared type. -/
def Registry.SignatureMentions (registry : Registry) (decl : MethodDecl) (identity : TypeIdentity) :
    Prop :=
  ∃ given ref, (given = decl.returns ∨ ∃ parameter ∈ decl.parameters, parameter.type = given) ∧
    registry.resolveValue given decl.space.display [] = .ok ref ∧ ref.Mentions identity

/-- The declaration of an object type mentions a declared type. -/
def Registry.LeadsTo (registry : Registry) (outer inner : TypeIdentity) : Prop :=
  ∃ decl ref, registry.find? outer.key = some decl ∧ decl.kind = .object ∧
    registry.Refers decl ref ∧ ref.Mentions inner

/-- What is wrong with a method, after some others: with its namespace, or if no other has its target,
with its signature or with a type that it reaches. -/
inductive Faulty (registry : Registry) (resolver : Resolver)
    (earlier : List (Value × MethodKind × MethodDecl)) :
    Value × MethodKind × MethodDecl → Defect → Prop
  | space {assembly : Value} {kind : MethodKind} {decl : MethodDecl} {defect : Defect} :
    Unanswered resolver decl.space defect →
    Faulty registry resolver earlier (assembly, kind, decl) defect
  | signature {assembly : Value} {kind : MethodKind} {decl : MethodDecl} {defect : Defect} :
    targetOf resolver (assembly, kind, decl) ∉ earlier.map (targetOf resolver) →
    decl.Fault defect →
    Faulty registry resolver earlier (assembly, kind, decl) defect
  | type {assembly : Value} {kind : MethodKind} {decl : MethodDecl} {mentioned identity : TypeIdentity}
      {typeDecl : TypeDecl} {defect : Defect} :
    targetOf resolver (assembly, kind, decl) ∉ earlier.map (targetOf resolver) →
    registry.SignatureMentions decl mentioned →
    Relation.ReflTransGen registry.LeadsTo mentioned identity →
    registry.find? identity.key = some typeDecl →
    typeDecl.Fault resolver defect →
    Faulty registry resolver earlier (assembly, kind, decl) defect

/-- The first method with a fault among some, after others. -/
inductive FirstFault (registry : Registry) (resolver : Resolver) :
    List (Value × MethodKind × MethodDecl) → List (Value × MethodKind × MethodDecl) →
      Value × MethodKind × MethodDecl → Defect → Prop
  | here {earlier rest : List (Value × MethodKind × MethodDecl)}
      {entry : Value × MethodKind × MethodDecl} {defect : Defect} :
    Faulty registry resolver earlier entry defect →
    FirstFault registry resolver earlier (entry :: rest) entry defect
  | later {earlier rest : List (Value × MethodKind × MethodDecl)}
      {entry last : Value × MethodKind × MethodDecl} {defect : Defect} :
    (∀ other, ¬ Faulty registry resolver earlier entry other) →
    FirstFault registry resolver (earlier ++ [entry]) rest last defect →
    FirstFault registry resolver earlier (entry :: rest) last defect

variable {registry : Registry} {resolver : Resolver} {space : String} {parameters : List String}
  {given : Value} {defect : Defect} {e : Error}

/-! ### Expressions and namespaces -/

theorem resolveValue_of_malformed (hmalformed : Malformed given defect) :
    registry.resolveValue given space parameters = .error (.rejected [] defect) := by
  obtain ⟨text, fault, rfl, hparse, rfl⟩ := hmalformed
  simp only [Registry.resolveValue, Registry.resolveText, hparse]

theorem malformed_of_resolveValue (htext : given.isText = true)
    (hfails : registry.resolveValue given space parameters = .error e) :
    ∃ defect, e = .rejected [] defect ∧ Malformed given defect := by
  obtain ⟨text, rfl⟩ := Value.exists_text_of_isText htext
  simp only [Registry.resolveValue, Registry.resolveText] at hfails
  split at hfails
  · cases hfails
  · rename_i fault hparse
    cases hfails
    exact ⟨_, rfl, text, fault, rfl, hparse, rfl⟩

theorem not_malformed_of_resolveValue {ref : TypeRef}
    (hresolve : registry.resolveValue given space parameters = .ok ref) : ¬ Malformed given defect := by
  intro hmalformed
  rw [resolveValue_of_malformed hmalformed] at hresolve
  cases hresolve

theorem not_unanswered {scriptSpace : String} (hspace : given = .text space)
    (hanswer : resolver.answer space = .ok scriptSpace) : ¬ Unanswered resolver given defect := by
  rintro ⟨other, hother, hnone⟩
  rw [hspace] at hother
  cases hother
  rw [hanswer] at hnone
  cases hnone

/-! ### Types -/

section Types

variable {identity : TypeIdentity} {decl : TypeDecl} {scriptSpace : String} {type : DeclaredType}

theorem fault_of_membersOf (htexts : decl.Textual) (hkind : decl.kind = .object)
    (hfails : membersOf registry decl = .error e) :
    ∃ defect, e = .rejected [] defect ∧ decl.Fault resolver defect := by
  obtain ⟨member, hmember, hfails⟩ := Outcome.exists_of_mapM_eq_error hfails
  obtain ⟨hmember, hreadable⟩ := List.mem_filter.1 hmember
  obtain ⟨hstatic, hcomputed⟩ := MemberDecl.isReadable_iff.1 hreadable
  obtain ⟨hmemberName, htype⟩ := htexts.members member hmember
  obtain ⟨name, hname⟩ := Value.exists_text_of_isText hmemberName
  rcases Outcome.bind_eq_error_iff.1 hfails with hfails | ⟨ref, -, hfails⟩
  · obtain ⟨defect, rfl, hmalformed⟩ := malformed_of_resolveValue htype hfails
    exact ⟨defect, rfl, .member hkind hmember hstatic hcomputed hmalformed⟩
  · rw [hname] at hfails
    rcases Outcome.bind_eq_error_iff.1 hfails with hfails | ⟨_, -, hfails⟩ <;> cases hfails

theorem fault_of_basesOf (htexts : decl.Textual) (hkind : decl.kind = .object)
    (hfails : basesOf registry decl = .error e) :
    ∃ defect, e = .rejected [] defect ∧ decl.Fault resolver defect := by
  rcases Outcome.bind_eq_error_iff.1 hfails with hfails | ⟨_, -, hfails⟩
  · obtain ⟨base, hbase, hfails⟩ := Outcome.exists_of_mapM_eq_error hfails
    obtain ⟨defect, rfl, hmalformed⟩ := malformed_of_resolveValue (htexts.bases base hbase) hfails
    exact ⟨defect, rfl, .base hkind hbase hmalformed⟩
  · cases hfails

theorem fault_of_describe (htexts : decl.Textual)
    (hfails : describe registry identity decl scriptSpace = .error e) :
    ∃ defect, e = .rejected [] defect ∧ decl.Fault resolver defect := by
  rcases Outcome.bind_eq_error_iff.1 hfails with hfails | ⟨_, -, hfails⟩
  · unfold shapeOf at hfails
    cases hkind : decl.kind with
    | enumeration =>
      rw [hkind] at hfails
      cases hfails
    | object =>
      rw [hkind] at hfails
      rcases Outcome.bind_eq_error_iff.1 hfails with hfails | ⟨_, -, hfails⟩
      · exact fault_of_membersOf htexts hkind hfails
      · rcases Outcome.bind_eq_error_iff.1 hfails with hfails | ⟨_, -, hfails⟩
        · exact fault_of_basesOf htexts hkind hfails
        · cases hfails
  · cases hfails

/-- A declaration that is described in its namespace is not at fault. -/
theorem not_fault_of_describe (hspace : decl.space = .text space)
    (hanswer : resolver.answer space = .ok scriptSpace)
    (hdescribe : describe registry identity decl scriptSpace = .ok type) :
    ¬ decl.Fault resolver defect := by
  have hobject : decl.kind = .object → ∃ members bases,
      membersOf registry decl = .ok members ∧ basesOf registry decl = .ok bases := by
    intro hkind
    rcases shape_of_describe hdescribe with ⟨hother, -⟩ | ⟨-, members, bases, hmembers, hbases, -⟩
    · rw [hkind] at hother
      cases hother
    · exact ⟨members, bases, hmembers, hbases⟩
  intro hfault
  cases hfault with
  | space hunanswered => exact not_unanswered hspace hanswer hunanswered
  | member hkind hmember hstatic hcomputed hmalformed =>
    obtain ⟨members, bases, hmembers, -⟩ := hobject hkind
    have hreadable := MemberDecl.isReadable_iff.2 ⟨hstatic, hcomputed⟩
    obtain ⟨_, -, hmade⟩ :=
      Outcome.exists_result_of_mem hmembers (List.mem_filter.2 ⟨hmember, hreadable⟩)
    obtain ⟨ref, hresolve, -⟩ := Outcome.bind_eq_ok_iff.1 hmade
    exact not_malformed_of_resolveValue hresolve hmalformed
  | base hkind hbase hmalformed =>
    obtain ⟨members, bases, -, hbases⟩ := hobject hkind
    obtain ⟨refs, hrefs, -⟩ := Outcome.bind_eq_ok_iff.1 hbases
    obtain ⟨ref, -, hresolve⟩ := Outcome.exists_result_of_mem hrefs hbase
    exact not_malformed_of_resolveValue hresolve hmalformed

/-- The resolver refuses a namespace for its replacement only, and the declared types are in texts. -/
structure Orderly (registry : Registry) (resolver : Resolver) : Prop where
  refusals : ∀ space e, resolver.answer space = .error e → ∃ defect, e = .rejected [] defect
  types : ∀ key decl, registry.find? key = some decl → decl.Textual

theorem Orderly.unanswered (horderly : Orderly registry resolver) (htext : given.isText = true)
    {found : Discovery} (hanswers : ∀ space, found.resolver.answer space = resolver.answer space)
    (hfails : (resolveSpace given found).1 = .error e) :
    ∃ defect, e = .rejected [] defect ∧ Unanswered resolver given defect := by
  obtain ⟨space, rfl⟩ := Value.exists_text_of_isText htext
  have hnone : resolver.answer space = .error e := (hanswers space).symm.trans hfails
  obtain ⟨defect, rfl⟩ := horderly.refusals space e hnone
  exact ⟨defect, rfl, space, rfl, hnone⟩

/-- Where the types that are pending cannot all be found, one that they lead to is at fault. -/
theorem fault_of_discover (horderly : Orderly registry resolver) {pending : List TypeIdentity}
    {found : Discovery} (hanswers : ∀ space, found.resolver.answer space = resolver.answer space)
    (hfails : (discover registry pending found).1 = .error e) :
    ∃ start ∈ pending, ∃ identity decl defect,
      Relation.ReflTransGen registry.LeadsTo start identity ∧
        registry.find? identity.key = some decl ∧ decl.Fault resolver defect ∧
        e = .rejected [] defect := by
  induction pending, found using discover.induct registry with
  | case1 found =>
    rw [discover_nil] at hfails
    cases hfails
  | case2 found identity rest hknown ih =>
    rw [discover_cons_of_passed rest (.inl hknown)] at hfails
    obtain ⟨start, hstart, hfault⟩ := ih hanswers hfails
    exact ⟨start, List.mem_cons_of_mem _ hstart, hfault⟩
  | case3 found identity rest hknown hnone ih =>
    rw [discover_cons_of_passed rest (.inr hnone)] at hfails
    obtain ⟨start, hstart, hfault⟩ := ih hanswers hfails
    exact ⟨start, List.mem_cons_of_mem _ hstart, hfault⟩
  -- Where the run breaks off, the first pending type is at fault itself.
  | case4 found identity rest hknown decl hfind failure after hspace =>
    rw [discover_cons_of_fresh rest (by simpa using hknown) hfind,
      Discover.andThen_of_error (by rw [hspace])] at hfails
    cases hfails
    obtain ⟨defect, rfl, hunanswered⟩ := horderly.unanswered (horderly.types _ _ hfind).space hanswers
      (congrArg Prod.fst hspace)
    exact ⟨identity, List.mem_cons_self, identity, decl, defect, .refl, hfind, .space hunanswered, rfl⟩
  | case5 found identity rest hknown decl hfind scriptSpace after hspace failure hdescribe =>
    rw [discover_cons_of_fresh rest (by simpa using hknown) hfind,
      Discover.andThen_of_ok (by rw [hspace]), Discover.andThen_of_error hdescribe] at hfails
    cases hfails
    have hfault : ∃ defect, e = .rejected [] defect ∧ decl.Fault resolver defect :=
      fault_of_describe (horderly.types _ _ hfind) hdescribe
    obtain ⟨defect, rfl, hfault⟩ := hfault
    exact ⟨identity, List.mem_cons_self, identity, decl, defect, .refl, hfind, hfault, rfl⟩
  | case6 found identity rest hknown decl hfind scriptSpace after hspace type hdescribe ih =>
    rw [discover_cons_of_fresh rest (by simpa using hknown) hfind,
      Discover.andThen_of_ok (by rw [hspace]), Discover.andThen_of_ok hdescribe] at hfails
    obtain ⟨space, -, -, rfl⟩ := resolveSpace_eq_ok_iff.1 hspace
    have hmiddle : ∀ other, ((found.asked space).addType type).resolver.answer other =
        resolver.answer other := by
      intro other
      rw [Discovery.resolver_addType, ← hanswers]
      exact found.resolver.answer_asked space other
    rw [hspace] at hfails
    obtain ⟨start, hstart, identity', decl', defect, hleads, hfind', hfault, rfl⟩ := ih hmiddle hfails
    -- The fault is below a type that the described one refers to, or below one that was pending.
    rcases List.mem_append.1 hstart with hreference | hrest
    · obtain ⟨hkind, ref, hrefers, hmentions⟩ :=
        (mentions_iff_of_describe hdescribe).1 (DeclaredType.mem_references_iff.1 hreference)
      exact ⟨identity, List.mem_cons_self, identity', decl', defect,
        .head ⟨decl, ref, hfind, hkind, hrefers, hmentions⟩ hleads, hfind', hfault, rfl⟩
    · exact ⟨start, List.mem_cons_of_mem _ hrest, identity', decl', defect, hleads, hfind', hfault,
        rfl⟩

end Types

/-! ### Methods -/

section Methods

variable {ignores : List String} {earlier entries : List (Value × MethodKind × MethodDecl)}
  {assembly : Value} {kind : MethodKind} {decl : MethodDecl} {fullName : String}
  {found after : Discovery}

theorem fault_of_signatureOf (htexts : decl.Textual) (hfails : signatureOf registry decl = .error e) :
    ∃ defect, e = .rejected [] defect ∧ decl.Fault defect := by
  rcases Outcome.bind_eq_error_iff.1 hfails with hfails | ⟨arguments, -, hfails⟩
  · obtain ⟨parameter, hparameter, hfails⟩ := Outcome.exists_of_mapM_eq_error hfails
    obtain ⟨hparameterName, htype⟩ := htexts.parameters parameter hparameter
    obtain ⟨name, hname⟩ := Value.exists_text_of_isText hparameterName
    rcases Outcome.bind_eq_error_iff.1 hfails with hfails | ⟨ref, -, hfails⟩
    · obtain ⟨defect, rfl, hmalformed⟩ := malformed_of_resolveValue htype hfails
      exact ⟨defect, rfl, .parameter hparameter hmalformed⟩
    · rw [hname] at hfails
      cases hfails
  · rcases Outcome.bind_eq_error_iff.1 hfails with hfails | ⟨ref, -, hfails⟩
    · obtain ⟨defect, rfl, hmalformed⟩ := malformed_of_resolveValue htexts.returns hfails
      exact ⟨defect, rfl, .returns hmalformed⟩
    · cases hfails

/-- The references in a signature are what its expressions refer to. -/
theorem mem_signature_iff {arguments : List Argument} {returns ref : TypeRef}
    (harguments : argumentsOf registry space decl.parameters = .ok arguments)
    (hreturns : registry.resolveValue decl.returns space [] = .ok returns) :
    ref ∈ arguments.map (·.type) ++ [returns] ↔
      ∃ given, (given = decl.returns ∨ ∃ parameter ∈ decl.parameters, parameter.type = given) ∧
        registry.resolveValue given space [] = .ok ref := by
  have htypes := types_of_argumentsOf harguments
  have hargument : ref ∈ arguments.map (·.type) ↔
      ∃ parameter ∈ decl.parameters, registry.resolveValue parameter.type space [] = .ok ref := by
    have hmem : (.ok ref : Except Error TypeRef) ∈
        arguments.map (fun argument => (.ok argument.type : Except Error TypeRef)) ↔
          ref ∈ arguments.map (·.type) := by
      simp
    rw [← hmem, ← htypes, List.mem_map]
  rw [List.mem_append, List.mem_singleton, hargument]
  constructor
  · rintro (⟨parameter, hparameter, hresolve⟩ | rfl)
    · exact ⟨parameter.type, .inr ⟨parameter, hparameter, rfl⟩, hresolve⟩
    · exact ⟨decl.returns, .inl rfl, hreturns⟩
  · rintro ⟨given, rfl | ⟨parameter, hparameter, rfl⟩, hresolve⟩
    · rw [hreturns] at hresolve
      exact .inr (Except.ok.inj hresolve).symm
    · exact .inl ⟨parameter, hparameter, hresolve⟩

theorem faulty_of_takeNamed (horderly : Orderly registry resolver) (htexts : decl.Textual)
    (hclaims : ClaimedBy resolver earlier found) {scriptSpace name : String}
    (htarget : targetOf resolver (assembly, kind, decl) =
      some (scriptSpace, kind.isExport, Naming.lowerFirst name))
    (hfails : (takeNamed registry assembly kind decl fullName scriptSpace name found).1 = .error e) :
    ∃ defect, e = .rejected [] defect ∧
      Faulty registry resolver earlier (assembly, kind, decl) defect := by
  cases hclaimed : found.claimed.contains (scriptSpace, kind.isExport, Naming.lowerFirst name) with
  | true =>
    rw [takeNamed_of_claimed registry assembly kind decl fullName hclaimed] at hfails
    cases hfails
  | false =>
    have hfirst : targetOf resolver (assembly, kind, decl) ∉ earlier.map (targetOf resolver) := by
      rw [htarget, ← hclaims.claimed]
      simpa using hclaimed
    rw [takeNamed_of_free registry assembly kind decl fullName hclaimed] at hfails
    cases hsignature : signatureOf registry decl with
    | error failure =>
      rw [Discover.andThen_of_error hsignature] at hfails
      cases hfails
      obtain ⟨defect, rfl, hfault⟩ := fault_of_signatureOf htexts hsignature
      exact ⟨defect, rfl, .signature hfirst hfault⟩
    | ok signature =>
      obtain ⟨arguments, harguments, hrest⟩ := Outcome.bind_eq_ok_iff.1 hsignature
      obtain ⟨returns, hreturns, hpair⟩ := Outcome.bind_eq_ok_iff.1 hrest
      cases hpair
      rw [Discover.andThen_of_ok hsignature, Discover.lift] at hfails
      obtain ⟨start, hstart, identity, typeDecl, defect, hleads, hfind, hfault, rfl⟩ :=
        fault_of_discover horderly (fun other => by
          rw [Discovery.resolver_addMethod]
          exact hclaims.answers other) hfails
      obtain ⟨ref, href, hmentions⟩ := List.mem_flatMap.1 hstart
      obtain ⟨given, hgiven, hresolve⟩ := (mem_signature_iff harguments hreturns).1 href
      exact ⟨defect, rfl, .type hfirst ⟨given, ref, hgiven, hresolve,
        TypeRef.mem_identities_iff.1 hmentions⟩ hleads hfind hfault⟩

theorem faulty_of_takeMethod (horderly : Orderly registry resolver) (htexts : decl.Textual)
    (hclaims : ClaimedBy resolver earlier found)
    (hfails : (takeMethod registry assembly kind decl fullName found).1 = .error e) :
    ∃ defect, e = .rejected [] defect ∧
      Faulty registry resolver earlier (assembly, kind, decl) defect := by
  rw [takeMethod_eq] at hfails
  cases hspace : (resolveSpace decl.space found).1 with
  | error failure =>
    rw [Discover.andThen_of_error hspace] at hfails
    cases hfails
    obtain ⟨defect, rfl, hunanswered⟩ := horderly.unanswered htexts.space hclaims.answers hspace
    exact ⟨defect, rfl, .space hunanswered⟩
  | ok scriptSpace =>
    have hrun : resolveSpace decl.space found =
        (.ok scriptSpace, (resolveSpace decl.space found).2) := Prod.ext hspace rfl
    obtain ⟨space, hdecl, hanswer, hasked⟩ := resolveSpace_eq_ok_iff.1 hrun
    obtain ⟨name, hname⟩ := Value.exists_text_of_isText htexts.name
    have htext : textName decl.name = .ok name := textName_eq_ok_iff.2 hname
    rw [Discover.andThen_of_ok hspace, Discover.andThen_of_ok htext, Discover.lift, hasked] at hfails
    have htarget := targetOf_eq_some assembly kind hdecl
      ((hclaims.answers space).symm.trans hanswer) hname
    have hasks : ClaimedBy resolver earlier (found.asked space) :=
      hclaims.congr rfl (found.resolver.answer_asked space)
    exact faulty_of_takeNamed horderly htexts hasks htarget hfails

theorem exists_fullName (htexts : decl.Textual) : ∃ fullName, decl.fullName? = some fullName := by
  have hparts : ∀ part ∈ [decl.space, decl.owner, decl.name].filter Value.isTruthy,
      part.isText = true := by
    intro part hpart
    obtain ⟨hpart, htruthy⟩ := List.mem_filter.1 hpart
    simp only [List.mem_cons, List.not_mem_nil, or_false] at hpart
    rcases hpart with rfl | rfl | rfl
    · exact htexts.space
    · exact htexts.owner htruthy
    · exact htexts.name
  obtain ⟨texts, htexts⟩ := Value.exists_texts hparts
  exact ⟨Text.dotted texts, by rw [MethodDecl.fullName?, htexts, Option.map_some]⟩

/-- A method that cannot be considered is at fault; the error names its assembly and the method. -/
theorem faulty_of_considerMethod (horderly : Orderly registry resolver) (htexts : decl.Textual)
    (hclaims : ClaimedBy resolver earlier found)
    (hfails : (considerMethod registry ignores assembly kind decl found).1 = .error e) :
    decl.isAmong ignores = false ∧ ∃ defect fullName, decl.fullName? = some fullName ∧
      e = .rejected [assembly.display, fullName] defect ∧
        Faulty registry resolver earlier (assembly, kind, decl) defect := by
  obtain ⟨fullName, hfullName⟩ := exists_fullName htexts
  obtain ⟨name, hname⟩ := Value.exists_text_of_isText htexts.name
  cases hignored : isIgnored ignores fullName decl.name with
  | error failure =>
    unfold isIgnored at hignored
    rw [hname] at hignored
    split at hignored <;> cases hignored
  | ok ignored =>
    cases ignored with
    | true =>
      simp only [considerMethod, hfullName, hignored] at hfails
      cases hfails
    | false =>
      rw [considerMethod_of_kept registry ignores assembly kind decl fullName hfullName hignored]
        at hfails
      cases htake : (takeMethod registry assembly kind decl fullName found).1 with
      | ok =>
        rw [htake] at hfails
        cases hfails
      | error failure =>
        rw [htake] at hfails
        cases hfails
        obtain ⟨defect, rfl, hfaulty⟩ := faulty_of_takeMethod horderly htexts hclaims htake
        exact ⟨isAmong_eq_of_isIgnored hfullName hignored, defect, fullName, hfullName, rfl, hfaulty⟩

theorem Registry.Closed.mem_of_leadsTo {methods : List Method} {types : Set TypeIdentity}
    {start identity : TypeIdentity} (hclosed : registry.Closed methods types) (hstart : start ∈ types)
    (hleads : Relation.ReflTransGen registry.LeadsTo start identity) : identity ∈ types := by
  induction hleads with
  | refl => exact hstart
  | tail _ hstep ih =>
    obtain ⟨decl, ref, hfind, hkind, hrefers, hmentions⟩ := hstep
    exact hclosed.declaration _ ih decl hfind hkind ref hrefers _ hmentions

/-- A type that has been found is not at fault. -/
theorem Frontier.not_fault {pending : List TypeIdentity} {identity : TypeIdentity}
    {typeDecl : TypeDecl} (hfrontier : Frontier registry resolver pending found)
    (hhas : found.Has identity) (hfind : registry.find? identity.key = some typeDecl) :
    ¬ typeDecl.Fault resolver defect := by
  obtain ⟨type, htype, rfl⟩ := hhas
  obtain ⟨decl, space, hfirst, -, hspace, hanswer, hdescribe⟩ := hfrontier.described type htype
  rw [hfirst] at hfind
  cases hfind
  exact not_fault_of_describe hspace hanswer hdescribe

/-- A method that has been considered was not at fault. -/
theorem not_faulty_of_considers (hrun : Considers registry ignores assembly kind decl found after)
    (hkept : decl.isAmong ignores = false) (hclaims : ClaimedBy resolver earlier found)
    (hfrontier : Frontier registry resolver [] found) :
    ¬ Faulty registry resolver earlier (assembly, kind, decl) defect := by
  have hafter := Frontier.of_considers hrun hfrontier
  cases hrun with
  | ignored hname hignored =>
    rw [isAmong_eq_of_isIgnored hname hignored] at hkept
    cases hkept
  | duplicate _ _ hspace hanswer htext hclaimed =>
    have hanswer := (hclaims.answers _).symm.trans hanswer
    have hmem := (hclaims.claimed _).1 (List.contains_iff_mem.1 hclaimed)
    rw [← targetOf_eq_some assembly kind hspace hanswer htext] at hmem
    intro hfaulty
    cases hfaulty with
    | space hunanswered => exact not_unanswered hspace hanswer hunanswered
    | signature hfirst => exact hfirst hmem
    | type hfirst => exact hfirst hmem
  | @taken _ space scriptSpace name arguments returns method _ _ _ _ hspace hanswer _ _ harguments
      hreturns hmethod hexplores =>
    have hanswer := (hclaims.answers _).symm.trans hanswer
    intro hfaulty
    cases hfaulty with
    | space hunanswered => exact not_unanswered hspace hanswer hunanswered
    | signature _ hfault =>
      cases hfault with
      | parameter hparameter hmalformed =>
        obtain ⟨argument, -, hmade⟩ := Outcome.exists_result_of_mem harguments hparameter
        obtain ⟨ref, hresolve, -⟩ := Outcome.bind_eq_ok_iff.1 hmade
        exact not_malformed_of_resolveValue hresolve hmalformed
      | returns hmalformed => exact not_malformed_of_resolveValue hreturns hmalformed
    | type _ hmentions hleads hfind hfault =>
      obtain ⟨given, ref, hgiven, hresolve, hmentioned⟩ := hmentions
      rw [hspace] at hresolve
      have href : ref ∈ method.signature := by
        rw [hmethod]
        exact (mem_signature_iff harguments hreturns).2 ⟨given, hgiven, hresolve⟩
      -- With nothing pending, what the method leads to has been found, and so is not at fault.
      have hmethods : method ∈ after.methods := by
        rw [hexplores.frame.1, Discovery.methods_addMethod]
        exact List.mem_append_right _ List.mem_cons_self
      have hstart := hafter.closed.signature method hmethods ref href _ hmentioned
      exact hafter.not_fault (hafter.closed.mem_of_leadsTo hstart hleads) hfind hfault

end Methods

end ScriptBridge
