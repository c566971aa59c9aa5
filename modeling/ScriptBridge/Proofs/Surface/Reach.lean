import Mathlib
import ScriptBridge.Proofs.Surface.Description
import ScriptBridge.Proofs.Surface.Exploration

/-!
# The reach of the methods

The declared types of a surface are the least set that holds what the signatures of its methods mention
and what the object types of the set refer to.

The invariant behind this is `Frontier`. A type is registered before what it refers to has been explored,
so in the middle of a run a type or a method may still mention something that is not known; whatever it
is, it is pending.
-/

namespace ScriptBridge

/-! ### Closed sets of types -/

/-- A set of declared types is closed under some methods if it holds what their signatures mention, and
with an object type whatever its declaration refers to. -/
structure Registry.Closed (registry : Registry) (methods : List Method) (types : Set TypeIdentity) :
    Prop where
  signature : ∀ method ∈ methods, ∀ ref ∈ method.signature, ∀ identity,
    ref.Mentions identity → identity ∈ types
  declaration : ∀ outer ∈ types, ∀ decl, registry.find? outer.key = some decl → decl.kind = .object →
    ∀ ref, registry.Refers decl ref → ∀ identity, ref.Mentions identity → identity ∈ types

/-- A type is called for by a method whose signature mentions it, or by one of some types. -/
def CalledFor (methods : List Method) (types : List DeclaredType) (identity : TypeIdentity) : Prop :=
  (∃ method ∈ methods, ∃ ref ∈ method.signature, ref.Mentions identity) ∨
    ∃ type ∈ types, type.Mentions identity

/-- Each of some types is called for by a method, or by a type before it. -/
def InOrder (methods : List Method) (types : List DeclaredType) : Prop :=
  ∀ before type after, types = before ++ type :: after → CalledFor methods before type.identity

/-- The type is described by the first declaration of its key, under what a resolver answers for the
namespace of the declaration. -/
def DescribedBy (registry : Registry) (resolver : Namespace.Resolver) (type : DeclaredType) : Prop :=
  ∃ decl space, registry.find? type.identity.key = some decl ∧ decl.identity = type.identity ∧
    decl.space = .text space ∧ resolver.answer space = .ok type.scriptSpace ∧
    describe registry decl.identity decl type.scriptSpace = .ok type

section CalledFor

variable {methods : List Method} {types : List DeclaredType} {identity : TypeIdentity}

theorem CalledFor.mono (hcalled : CalledFor methods types identity) (moreMethods : List Method)
    (moreTypes : List DeclaredType) :
    CalledFor (methods ++ moreMethods) (types ++ moreTypes) identity := by
  rcases hcalled with ⟨method, hmethod, hsignature⟩ | ⟨type, htype, hmentions⟩
  · exact .inl ⟨method, List.mem_append_left _ hmethod, hsignature⟩
  · exact .inr ⟨type, List.mem_append_left _ htype, hmentions⟩

theorem InOrder.mono (horder : InOrder methods types) (moreMethods : List Method) :
    InOrder (methods ++ moreMethods) types := by
  intro before type after hsplit
  simpa using (horder before type after hsplit).mono moreMethods []

theorem InOrder.concat {type : DeclaredType} (horder : InOrder methods types)
    (hcalled : CalledFor methods types type.identity) : InOrder methods (types ++ [type]) := by
  intro before other after hsplit
  rcases List.eq_nil_or_concat after with rfl | ⟨inits, last, rfl⟩
  · obtain ⟨rfl, hlast⟩ := List.append_inj' hsplit rfl
    cases hlast
    exact hcalled
  · have hsame : types ++ [type] = (before ++ other :: inits) ++ [last] := by
      simpa using hsplit
    exact horder before other inits (List.append_inj' hsame rfl).1

end CalledFor

/-! ### The frontier -/

/-- The declared type has been found. -/
def Discovery.Has (found : Discovery) (identity : TypeIdentity) : Prop :=
  ∃ type ∈ found.types, type.identity = identity

section Has

variable {found : Discovery} {identity : TypeIdentity} {type : DeclaredType}

theorem Discovery.Has.addType (hhas : found.Has identity) (space : String) (type : DeclaredType) :
    ((found.asked space).addType type).Has identity := by
  obtain ⟨known, hknown, hsame⟩ := hhas
  exact ⟨known, by simp [hknown], hsame⟩

theorem Discovery.has_addType (hidentity : type.identity = identity) (space : String) :
    ((found.asked space).addType type).Has identity :=
  ⟨type, by simp, hidentity⟩

/-- What is described for the first time is unlike what has been found. -/
theorem Discovery.nodup_concat (hdistinct : (found.types.map (·.identity)).Nodup)
    (hfresh : found.knows type.identity.key = false) :
    ((found.types ++ [type]).map (·.identity)).Nodup := by
  rw [List.map_append, List.nodup_append]
  refine ⟨hdistinct, List.pairwise_singleton _ _, ?_⟩
  intro other hold last hlast heq
  obtain ⟨known, hknown, rfl⟩ := List.mem_map.1 hold
  have hsame : known.identity = type.identity := by simpa [heq] using hlast
  have hknows : found.knows type.identity.key = true :=
    List.any_eq_true.2 ⟨known, hknown, by simp [hsame]⟩
  rw [hfresh] at hknows
  cases hknows

end Has

/-- The invariant of a run with some types pending. Every type that has been found is described by its
declaration and called for by what stands before it, and whatever is mentioned has been found or is
pending. -/
structure Frontier (registry : Registry) (resolver : Namespace.Resolver)
    (pending : List TypeIdentity) (found : Discovery) : Prop where
  answers : ∀ space, found.resolver.answer space = resolver.answer space
  described : ∀ type ∈ found.types, DescribedBy registry resolver type
  distinct : (found.types.map (·.identity)).Nodup
  inOrder : InOrder found.methods found.types
  declared : ∀ identity ∈ pending, registry.IsDeclared identity
  calledFor : ∀ identity ∈ pending, CalledFor found.methods found.types identity
  signature : ∀ method ∈ found.methods, ∀ ref ∈ method.signature, ∀ identity,
    ref.Mentions identity → found.Has identity ∨ identity ∈ pending
  mentions : ∀ type ∈ found.types, ∀ identity,
    type.Mentions identity → found.Has identity ∨ identity ∈ pending

theorem isDeclared_of_describedBy {registry : Registry} {resolver : Namespace.Resolver}
    {type : DeclaredType} (hdescribed : DescribedBy registry resolver type) :
    registry.IsDeclared type.identity := by
  obtain ⟨decl, _, hfind, hidentity, -⟩ := hdescribed
  exact ⟨decl, hfind, hidentity⟩

namespace Frontier

variable {registry : Registry} {resolver : Namespace.Resolver} {identity : TypeIdentity}
  {pending rest : List TypeIdentity} {found after : Discovery}

theorem start (found : Discovery) (hmethods : found.methods = []) (htypes : found.types = []) :
    Frontier registry found.resolver [] found where
  answers _ := rfl
  described := by simp [htypes]
  distinct := by simp [htypes]
  inOrder := by simp [InOrder, htypes]
  declared := by simp
  calledFor := by simp
  signature := by simp [hmethods]
  mentions := by simp [htypes]

/-- Only the methods, the types and the answers of the resolver count. -/
theorem congr {other : Discovery} (hfrontier : Frontier registry resolver pending found)
    (hmethods : other.methods = found.methods) (htypes : other.types = found.types)
    (hanswers : ∀ space, other.resolver.answer space = found.resolver.answer space) :
    Frontier registry resolver pending other where
  answers space := (hanswers space).trans (hfrontier.answers space)
  described := htypes ▸ hfrontier.described
  distinct := htypes ▸ hfrontier.distinct
  inOrder := hmethods ▸ htypes ▸ hfrontier.inOrder
  declared := hfrontier.declared
  calledFor := hmethods ▸ htypes ▸ hfrontier.calledFor
  signature := by
    rw [hmethods]
    simpa [Discovery.Has, htypes] using hfrontier.signature
  mentions := by
    simpa [Discovery.Has, htypes] using hfrontier.mentions

/-- A declared type whose key is known has been found itself. -/
theorem has_of_knows (hfrontier : Frontier registry resolver pending found)
    (hdeclared : registry.IsDeclared identity) (hknows : found.knows identity.key = true) :
    found.Has identity := by
  obtain ⟨type, htype, hkey⟩ := List.any_eq_true.1 hknows
  have htypeDeclared := isDeclared_of_describedBy (hfrontier.described type htype)
  exact ⟨type, htype, htypeDeclared.eq_of_key_eq hdeclared (by simpa using hkey)⟩

/-- A pending type that has been found may be passed over. -/
theorem pass (hfrontier : Frontier registry resolver (identity :: rest) found)
    (hhas : found.Has identity) : Frontier registry resolver rest found where
  answers := hfrontier.answers
  described := hfrontier.described
  distinct := hfrontier.distinct
  inOrder := hfrontier.inOrder
  declared other hother := hfrontier.declared other (List.mem_cons_of_mem _ hother)
  calledFor other hother := hfrontier.calledFor other (List.mem_cons_of_mem _ hother)
  signature method hmethod ref href other hmentions := by
    rcases hfrontier.signature method hmethod ref href other hmentions with hfound | hpending
    · exact .inl hfound
    · rcases List.mem_cons.1 hpending with rfl | hrest
      · exact .inl hhas
      · exact .inr hrest
  mentions type htype other hmentions := by
    rcases hfrontier.mentions type htype other hmentions with hfound | hpending
    · exact .inl hfound
    · rcases List.mem_cons.1 hpending with rfl | hrest
      · exact .inl hhas
      · exact .inr hrest

theorem describedBy {decl : TypeDecl} {space : String} {type : DeclaredType}
    (hfrontier : Frontier registry resolver (identity :: rest) found)
    (hfind : registry.find? identity.key = some decl) (hspace : decl.space = .text space)
    (hanswer : found.resolver.answer space = .ok type.scriptSpace)
    (hdescribe : ScriptBridge.describe registry identity decl type.scriptSpace = .ok type) :
    DescribedBy registry resolver type := by
  have hidentity := identity_of_describe hdescribe
  have hdeclared := (hfrontier.declared identity List.mem_cons_self).identity_of_find? hfind
  refine ⟨decl, space, hidentity.symm ▸ hfind, hdeclared.trans hidentity.symm, hspace, ?_, ?_⟩
  · rw [← hfrontier.answers, hanswer]
  · rw [hdeclared, hdescribe]

/-- A pending type may be described; what it mentions becomes pending in its place. -/
theorem describe {decl : TypeDecl} {space : String} {type : DeclaredType}
    (hfrontier : Frontier registry resolver (identity :: rest) found)
    (hfresh : found.knows identity.key = false) (hfind : registry.find? identity.key = some decl)
    (hspace : decl.space = .text space)
    (hanswer : found.resolver.answer space = .ok type.scriptSpace)
    (hdescribe : ScriptBridge.describe registry identity decl type.scriptSpace = .ok type) :
    Frontier registry resolver (type.references ++ rest) ((found.asked space).addType type) := by
  have hidentity := identity_of_describe hdescribe
  have hdescribed := hfrontier.describedBy hfind hspace hanswer hdescribe
  have htypes : ((found.asked space).addType type).types = found.types ++ [type] := by simp
  have hmethods : ((found.asked space).addType type).methods = found.methods := by simp
  -- What was found or pending is found now, or pending still.
  have hkept : ∀ other, found.Has other ∨ other ∈ identity :: rest →
      ((found.asked space).addType type).Has other ∨ other ∈ type.references ++ rest := by
    rintro other (hfound | hpending)
    · exact .inl (hfound.addType space type)
    · rcases List.mem_cons.1 hpending with rfl | hrest
      · exact .inl (Discovery.has_addType hidentity space)
      · exact .inr (List.mem_append_right _ hrest)
  refine ⟨?_, ?_, ?_, ?_, ?_, ?_, ?_, ?_⟩
  · intro other
    rw [Discovery.resolver_addType, ← hfrontier.answers]
    exact found.resolver.answer_asked space other
  · rw [htypes]
    intro known hknown
    rcases List.mem_append.1 hknown with hold | hlast
    · exact hfrontier.described known hold
    · rw [List.mem_singleton.1 hlast]
      exact hdescribed
  · rw [htypes]
    exact Discovery.nodup_concat hfrontier.distinct (hidentity.symm ▸ hfresh)
  · rw [htypes, hmethods]
    exact hfrontier.inOrder.concat (hidentity ▸ hfrontier.calledFor identity List.mem_cons_self)
  · intro other hother
    rcases List.mem_append.1 hother with hreference | hrest
    · obtain ⟨-, ref, hrefers, hmentions⟩ :=
        (mentions_iff_of_describe hdescribe).1 (DeclaredType.mem_references_iff.1 hreference)
      exact isDeclared_of_refers hrefers hmentions
    · exact hfrontier.declared other (List.mem_cons_of_mem _ hrest)
  · rw [htypes, hmethods]
    intro other hother
    rcases List.mem_append.1 hother with hreference | hrest
    · exact .inr ⟨type, by simp, DeclaredType.mem_references_iff.1 hreference⟩
    · simpa using (hfrontier.calledFor other (List.mem_cons_of_mem _ hrest)).mono [] [type]
  · rw [hmethods]
    intro method hmethod ref href other hmentions
    exact hkept other (hfrontier.signature method hmethod ref href other hmentions)
  · rw [htypes]
    intro known hknown other hmentions
    rcases List.mem_append.1 hknown with hold | hlast
    · exact hkept other (hfrontier.mentions known hold other hmentions)
    · rw [List.mem_singleton.1 hlast] at hmentions
      exact .inr (List.mem_append_left _ (DeclaredType.mem_references_iff.2 hmentions))

/-- A method may be taken where nothing is pending; what its signature mentions becomes pending. -/
theorem takeMethod {method : Method} (hfrontier : Frontier registry resolver [] found)
    (hdeclared : ∀ ref ∈ method.signature, ∀ identity, ref.Mentions identity →
      registry.IsDeclared identity) :
    Frontier registry resolver (method.signature.flatMap TypeRef.identities)
      (found.addMethod method) := by
  have hpending : ∀ other, other ∈ method.signature.flatMap TypeRef.identities ↔
      ∃ ref ∈ method.signature, ref.Mentions other := by
    simp [List.mem_flatMap, TypeRef.mem_identities_iff]
  refine ⟨?_, ?_, ?_, ?_, ?_, ?_, ?_, ?_⟩
  · simpa using hfrontier.answers
  · simpa using hfrontier.described
  · simpa using hfrontier.distinct
  · simpa using hfrontier.inOrder.mono [method]
  · intro other hother
    obtain ⟨ref, href, hmentions⟩ := (hpending other).1 hother
    exact hdeclared ref href other hmentions
  · intro other hother
    exact .inl ⟨method, by simp, (hpending other).1 hother⟩
  · rw [Discovery.methods_addMethod]
    intro taken htaken ref href other hmentions
    rcases List.mem_append.1 htaken with hold | hlast
    · rcases hfrontier.signature taken hold ref href other hmentions with hfound | hnone
      · exact .inl (by simpa [Discovery.Has] using hfound)
      · cases hnone
    · rw [List.mem_singleton.1 hlast] at href
      exact .inr ((hpending other).2 ⟨ref, href, hmentions⟩)
  · rw [Discovery.types_addMethod]
    intro known hknown other hmentions
    rcases hfrontier.mentions known hknown other hmentions with hfound | hnone
    · exact .inl (by simpa [Discovery.Has] using hfound)
    · cases hnone

theorem of_explores (hrun : Explores registry pending found after)
    (hfrontier : Frontier registry resolver pending found) : Frontier registry resolver [] after := by
  induction hrun with
  | done => exact hfrontier
  | known hknows _ ih =>
    have hdeclared := hfrontier.declared _ List.mem_cons_self
    exact ih (hfrontier.pass (hfrontier.has_of_knows hdeclared hknows))
  | undeclared hnone _ ih =>
    obtain ⟨decl, hfind, -⟩ := hfrontier.declared _ List.mem_cons_self
    rw [hnone] at hfind
    cases hfind
  | described hfresh hfind hspace hanswer hdescribe _ ih =>
    exact ih (hfrontier.describe hfresh hfind hspace hanswer hdescribe)

theorem isDeclared_of_argumentsOf {decls : List ParameterDecl} {space : String}
    {arguments : List Argument} (harguments : argumentsOf registry space decls = .ok arguments)
    {argument : Argument} (hargument : argument ∈ arguments)
    (hnames : argument.type.Names identity) : registry.IsDeclared identity := by
  have hmem : .ok argument.type ∈ arguments.map fun argument => (.ok argument.type : Except Error _) :=
    List.mem_map_of_mem hargument
  rw [← types_of_argumentsOf harguments] at hmem
  obtain ⟨given, -, hresolve⟩ := List.mem_map.1 hmem
  exact Registry.isDeclared_of_names_resolveValue hresolve hnames

variable {ignores : List String} {assembly : Value} {kind : MethodKind} {decl : MethodDecl}

theorem of_considers (hrun : Considers registry ignores assembly kind decl found after)
    (hfrontier : Frontier registry resolver [] found) : Frontier registry resolver [] after := by
  cases hrun with
  | ignored => exact hfrontier.congr rfl rfl fun _ => rfl
  | duplicate => exact hfrontier.congr rfl rfl (found.resolver.answer_asked _)
  | @taken _ space scriptSpace name arguments returns method _ _ _ _ _ _ _ _ harguments hreturns
      hmethod hexplores =>
    have hclaimed : Frontier registry resolver []
        ((found.asked space).claim (scriptSpace, kind.isExport, Naming.lowerFirst name)) :=
      hfrontier.congr rfl rfl (found.resolver.answer_asked space)
    refine of_explores hexplores (hclaimed.takeMethod ?_)
    intro ref href identity hmentions
    simp only [Method.signature, hmethod, List.mem_append, List.mem_map, List.mem_singleton] at href
    rcases href with ⟨argument, hargument, rfl⟩ | rfl
    · exact isDeclared_of_argumentsOf harguments hargument hmentions.names
    · exact Registry.isDeclared_of_mentions_resolveValue hreturns hmentions

theorem of_takes {entries : List (Value × MethodKind × MethodDecl)}
    (hrun : Takes registry ignores entries found after)
    (hfrontier : Frontier registry resolver [] found) : Frontier registry resolver [] after := by
  induction hrun with
  | done => exact hfrontier
  | next hstep _ ih => exact ih (of_considers hstep hfrontier)

/-- With nothing pending, what has been found is closed. -/
theorem closed (hfrontier : Frontier registry resolver [] found) :
    registry.Closed found.methods {identity | found.Has identity} where
  signature method hmethod ref href identity hmentions :=
    (hfrontier.signature method hmethod ref href identity hmentions).resolve_right List.not_mem_nil
  declaration outer houter decl hfind hkind ref hrefers identity hmentions := by
    obtain ⟨type, htype, rfl⟩ := houter
    obtain ⟨first, _, hfirst, -, -, -, hdescribe⟩ := hfrontier.described type htype
    obtain rfl : first = decl := Option.some.inj (hfirst.symm.trans hfind)
    have htypeMentions := (mentions_iff_of_describe hdescribe).2 ⟨hkind, ref, hrefers, hmentions⟩
    exact (hfrontier.mentions type htype identity htypeMentions).resolve_right List.not_mem_nil

/-- What has been found is in every closed set: a type is called for by what stands before it. -/
theorem subset_of_closed (hfrontier : Frontier registry resolver pending found)
    {types : Set TypeIdentity} (hclosed : registry.Closed found.methods types) :
    ∀ before after, found.types = before ++ after → ∀ type ∈ before, type.identity ∈ types := by
  intro before
  induction before using List.reverseRecOn with
  | nil =>
    intro _ _ type htype
    cases htype
  | append_singleton before last ih =>
    intro after hsplit type htype
    have hsplit' : found.types = before ++ last :: after := by simpa using hsplit
    have hbefore := ih (last :: after) hsplit'
    rcases List.mem_append.1 htype with hold | hlast
    · exact hbefore type hold
    · rw [List.mem_singleton.1 hlast]
      rcases hfrontier.inOrder before last after hsplit' with
        ⟨method, hmethod, ref, href, hmentions⟩ | ⟨outer, houter, hmentions⟩
      · exact hclosed.signature method hmethod ref href _ hmentions
      · have hmem : outer ∈ found.types := hsplit' ▸ List.mem_append_left _ houter
        obtain ⟨decl, _, hfind, hidentity, -, -, hdescribe⟩ := hfrontier.described outer hmem
        obtain ⟨hkind, ref, hrefers, hmentions⟩ := (mentions_iff_of_describe hdescribe).1 hmentions
        exact hclosed.declaration _ (hbefore outer houter) decl hfind hkind ref hrefers _ hmentions

end Frontier

/-! ### Inspections -/

section Inspected

variable {inspector : Inspector} {modules : List Descriptor} {surface : Surface}

/-- Nothing is pending at the end of an inspection. -/
theorem frontier_of_inspect (hinspect : (inspector.inspect modules).result = .ok surface) :
    ∃ after, Frontier (Registry.ofModules modules) inspector.resolver [] after ∧
      surface = after.surface := by
  obtain ⟨warnings, log, after, htakes, hsurface⟩ := takes_of_inspect hinspect
  have hfrontier := Frontier.of_takes htakes (Frontier.start _ rfl rfl)
  exact ⟨after, hfrontier, hsurface⟩

theorem nodup_identities_of_inspect (hinspect : (inspector.inspect modules).result = .ok surface) :
    (surface.types.map (·.identity)).Nodup := by
  obtain ⟨after, hfrontier, rfl⟩ := frontier_of_inspect hinspect
  exact hfrontier.distinct

theorem describedBy_of_inspect (hinspect : (inspector.inspect modules).result = .ok surface)
    {type : DeclaredType} (htype : type ∈ surface.types) :
    DescribedBy (Registry.ofModules modules) inspector.resolver type := by
  obtain ⟨after, hfrontier, rfl⟩ := frontier_of_inspect hinspect
  exact hfrontier.described type htype

theorem mem_of_closed_of_inspect (hinspect : (inspector.inspect modules).result = .ok surface)
    {types : Set TypeIdentity}
    (hclosed : (Registry.ofModules modules).Closed surface.methods types) {type : DeclaredType}
    (htype : type ∈ surface.types) : type.identity ∈ types := by
  obtain ⟨after, hfrontier, rfl⟩ := frontier_of_inspect hinspect
  exact hfrontier.subset_of_closed hclosed after.types [] (List.append_nil _).symm type htype

/-- Whatever the methods and types of a surface mention is among its types. -/
theorem mentioned_of_inspect (hinspect : (inspector.inspect modules).result = .ok surface) :
    (∀ method ∈ surface.methods, ∀ ref ∈ method.signature, ∀ identity, ref.Mentions identity →
        ∃ type ∈ surface.types, type.identity = identity) ∧
      ∀ type ∈ surface.types, ∀ identity, type.Mentions identity →
        ∃ other ∈ surface.types, other.identity = identity := by
  obtain ⟨after, hfrontier, rfl⟩ := frontier_of_inspect hinspect
  constructor
  · intro method hmethod ref href identity hmentions
    exact (hfrontier.signature method hmethod ref href identity hmentions).resolve_right
      List.not_mem_nil
  · intro type htype identity hmentions
    exact (hfrontier.mentions type htype identity hmentions).resolve_right List.not_mem_nil

end Inspected

/-- The declared types of a surface are the least set closed under its methods. Each is there once,
described by the first declaration of its key, and is called for by a method or by a type before it. -/
theorem isLeast_types_of_inspect {inspector : Inspector} {modules : List Descriptor} {surface : Surface}
    (hinspect : (inspector.inspect modules).result = .ok surface) :
    IsLeast {types | (Registry.ofModules modules).Closed surface.methods types}
        {identity | ∃ type ∈ surface.types, type.identity = identity} ∧
      (surface.types.map (·.identity)).Nodup ∧
      (∀ type ∈ surface.types, ∃ decl space,
        (modules.flatMap (·.types)).find? (·.key == .text type.identity.key) = some decl ∧
        decl.identity = type.identity ∧ decl.space = .text space ∧
        inspector.resolver.answer space = .ok type.scriptSpace ∧
        describe (Registry.ofModules modules) decl.identity decl type.scriptSpace = .ok type) ∧
      InOrder surface.methods surface.types := by
  obtain ⟨warnings, log, after, htakes, rfl⟩ := takes_of_inspect hinspect
  have hfrontier := Frontier.of_takes htakes (Frontier.start _ rfl rfl)
  refine ⟨⟨hfrontier.closed, ?_⟩, hfrontier.distinct, ?_, hfrontier.inOrder⟩
  · rintro types hclosed identity ⟨type, htype, rfl⟩
    exact hfrontier.subset_of_closed hclosed after.types [] (List.append_nil _).symm type htype
  · intro type htype
    obtain ⟨decl, space, hfind, hdescribed⟩ := hfrontier.described type htype
    rw [Registry.find?_ofModules] at hfind
    exact ⟨decl, space, hfind, hdescribed⟩

/-! ### A list of nodes -/

/-- A node of a list, with a colour and the nodes that may follow. -/
def nodeDecl : TypeDecl where
  kind := .object
  space := .text "lists"
  name := .text "Node"
  parameters := []
  members :=
    [{ name := .text "Next", type := .text "Node?[]", isStatic := false, isComputed := false },
     { name := .text "Colour", type := .text "Colour", isStatic := false, isComputed := false }]
  items := []
  bases := []
  isValueType := false

def colourDecl : TypeDecl where
  kind := .enumeration
  space := .text "lists"
  name := .text "Colour"
  parameters := []
  members := []
  items := [{ name := .text "Red", value := none }]
  bases := []
  isValueType := true

def listMethodDecl (name returns : String) : MethodDecl where
  kind := "invokable"
  space := .text "lists"
  owner := .text "Lists"
  name := .text name
  parameters := []
  returns := .text returns

/-- The head of a list is there in time, while what is looked for may not be. -/
def listModule : Descriptor where
  assembly := .text "Lists"
  types := [nodeDecl, colourDecl]
  methods := [listMethodDecl "Head" "Task<Node>", listMethodDecl "Find" "Task<Node>?"]

def listInspector : Inspector where
  resolver := { rules := [] }

def nodeType : DeclaredType where
  identity := nodeDecl.identity
  scriptSpace := "lists"
  isValueType := false
  shape := .object []
    [{ name := .text "Next", scriptName := .text "next",
       type := .array (.nullable (.custom nodeDecl.identity)) "" },
     { name := .text "Colour", scriptName := .text "colour",
       type := .custom colourDecl.identity }] []

def colourType : DeclaredType where
  identity := colourDecl.identity
  scriptSpace := "lists"
  isValueType := true
  shape := .enumeration [{ name := .text "Red", value := 0 }]

def listMethod (name scriptName : String) (returns : TypeRef) : Method where
  kind := .invokable
  assembly := .text "Lists"
  owner := .text "Lists"
  space := "lists"
  scriptSpace := "lists"
  name
  scriptName
  arguments := []
  returns

def headMethod : Method :=
  listMethod "Head" "head" (.taskOf (.custom nodeDecl.identity))

def findMethod : Method :=
  listMethod "Find" "find" (.nullable (.taskOf (.custom nodeDecl.identity)))

def listSurface : Surface where
  methods := [headMethod, findMethod]
  types := [nodeType, colourType]
  namespaces := ["lists"]

def listRegistry : Registry where
  decls := [nodeDecl, colourDecl]

theorem describe_nodeDecl :
    describe listRegistry nodeDecl.identity nodeDecl "lists" = .ok nodeType := by
  cbv

theorem resolveValue_task_node :
    listRegistry.resolveValue (.text "Task<Node>") "lists" [] =
      .ok (.taskOf (.custom nodeDecl.identity)) :=
  Registry.resolveValue_eq_ok_iff.2
    ⟨_, .mk "Task" [.mk "Node" [] []] [], rfl, by cbv, by decide +kernel⟩

theorem resolveValue_task_node_nullable :
    listRegistry.resolveValue (.text "Task<Node>?") "lists" [] =
      .ok (.nullable (.taskOf (.custom nodeDecl.identity))) :=
  Registry.resolveValue_eq_ok_iff.2
    ⟨_, .mk "Task" [.mk "Node" [] []] [.nullable], rfl, by cbv, by decide +kernel⟩

/-- The head is taken with the node and its colour, and what is looked for with nothing new. -/
theorem inspect_listModule : (listInspector.inspect [listModule]).result = .ok listSurface := by
  have hdeclared : declareModules [listModule] ({}, { resolver := listInspector.resolver }) =
      (listRegistry, { resolver := listInspector.resolver }) := rfl
  refine inspect_of_takes hdeclared ⟨_, .next (.taken rfl rfl rfl rfl rfl rfl rfl resolveValue_task_node rfl
    (@Explores.described _ _ _ _ _ nodeDecl _ nodeType rfl rfl rfl rfl describe_nodeDecl
      (.known rfl
        (@Explores.described _ _ _ _ _ colourDecl _ colourType rfl rfl rfl rfl rfl .done))))
    (.next (.taken rfl rfl rfl rfl rfl rfl rfl resolveValue_task_node_nullable rfl
      (.known rfl .done)) .done), ?_⟩
  rfl

/-- A node may be followed by nodes, so that the set is not found by the signatures alone. -/
theorem isLeast_types_listSurface :
    (listInspector.inspect [listModule]).result = .ok listSurface ∧
      IsLeast {types | (Registry.ofModules [listModule]).Closed listSurface.methods types}
        {identity | ∃ type ∈ listSurface.types, type.identity = identity} :=
  ⟨inspect_listModule, (isLeast_types_of_inspect inspect_listModule).1⟩

end ScriptBridge
