import Mathlib
import ScriptBridge.Proofs.Artifact.Markers

/-!
# Open types among the registrations

No type parameter and no declared type without its type arguments is shown in a registered text. A name
that nothing is declared or known by, as it is written, is shown as it is; only there a generic definition
can stand without arguments.
-/

namespace ScriptBridge

/-- A declared type has the arguments that its declaration asks for, and nothing is a type parameter.
This is about a reference itself, not about its parts. -/
def TypeRef.Fits (registry : Registry) : TypeRef → Prop
  | .parameter _ => False
  | .custom identity => ∃ decl, registry.find? identity.key = some decl ∧ decl.identity = identity ∧
      decl.parameters = []
  | .generic identity args => args ≠ [] ∧ ∃ decl, registry.find? identity.key = some decl ∧
      decl.identity = identity ∧ (decl.parameters ≠ [] → decl.parameters.length = args.length)
  | _ => True

theorem TypeRef.ShownIn.partOf {node ref : TypeRef} (hshown : node.ShownIn ref) :
    node.PartOf ref := by
  induction hshown with
  | here => exact .here
  | nullable _ ih => exact .nullable ih
  | element _ ih => exact .element ih
  | key _ ih => exact .key ih
  | value _ ih => exact .value ih
  | result _ ih => exact .result ih
  | argument hmem _ ih => exact .argument hmem ih
  | applied _ hmem _ ih => exact .applied hmem ih

theorem Registry.Gives.fits {registry : Registry} {ref : TypeRef} (hgives : registry.Gives [] ref) :
    ref.Fits registry := by
  cases hgives with
  | parameter hmem _ => cases hmem
  | custom hdeclared harity =>
    obtain ⟨decl, hfind, rfl⟩ := hdeclared
    exact ⟨decl, hfind, rfl, List.eq_nil_of_length_eq_zero harity⟩
  | generic hdeclared hne hlength _ =>
    obtain ⟨decl, hfind, rfl⟩ := hdeclared
    refine ⟨hne, decl, hfind, rfl, fun hparameters => ?_⟩
    obtain hlength | ⟨hzero, -⟩ := hlength
    · exact hlength.symm
    · exact absurd (List.eq_nil_of_length_eq_zero hzero) hparameters
  | _ => trivial

def TypeRef.ShowsFitting (registry : Registry) (ref : TypeRef) : Prop :=
  ∀ node, TypeRef.ShownIn node ref → node.Fits registry

namespace TypeRef.ShowsFitting

variable {registry : Registry}

theorem array {element : TypeRef} (helement : element.ShowsFitting registry) (collection : String) :
    (TypeRef.array element collection).ShowsFitting registry := by
  intro node hshown
  cases hshown with
  | here => trivial
  | element hshown => exact helement node hshown

theorem map {key value : TypeRef} (hkey : key.ShowsFitting registry)
    (hvalue : value.ShowsFitting registry) (collection : String) :
    (TypeRef.map key value collection).ShowsFitting registry := by
  intro node hshown
  cases hshown with
  | here => trivial
  | key hshown => exact hkey node hshown
  | value hshown => exact hvalue node hshown

theorem of_nullable {inner : TypeRef} (houter : (TypeRef.nullable inner).ShowsFitting registry) :
    inner.ShowsFitting registry :=
  fun node hshown => houter node (.nullable hshown)

theorem of_array {element : TypeRef} {collection : String}
    (houter : (TypeRef.array element collection).ShowsFitting registry) :
    element.ShowsFitting registry :=
  fun node hshown => houter node (.element hshown)

theorem of_taskOf {inner : TypeRef} (houter : (TypeRef.taskOf inner).ShowsFitting registry) :
    inner.ShowsFitting registry :=
  fun node hshown => houter node (.result hshown)

theorem of_map {key value : TypeRef} {collection : String}
    (houter : (TypeRef.map key value collection).ShowsFitting registry) :
    key.ShowsFitting registry ∧ value.ShowsFitting registry :=
  ⟨fun node hshown => houter node (.key hshown), fun node hshown => houter node (.value hshown)⟩

/-- Outside generic declarations all that is shown of what an expression gives fits. -/
theorem of_gives {ref : TypeRef} (hgives : registry.Gives [] ref) : ref.ShowsFitting registry :=
  fun _ hshown => (hgives.of_partOf hshown.partOf).fits

theorem resolveValue {given : Value} {space : String} {ref : TypeRef}
    (hresolve : registry.resolveValue given space [] = .ok ref) : ref.ShowsFitting registry :=
  .of_gives (Registry.gives_of_resolveValue hresolve)

/-! ### What is registered -/

/-- What is registered for a reference shows nothing that the reference does not show, but itself. -/
theorem refsOf : ∀ ref : TypeRef, ref.ShowsFitting registry →
    ∀ registered ∈ Registration.refsOf ref, registered.ShowsFitting registry
  | .nullable inner, hfits, registered, hmem => refsOf inner hfits.of_nullable registered hmem
  | .taskOf inner, hfits, registered, hmem => by
    rw [Registration.refsOf] at hmem
    split at hmem
    · rcases List.mem_cons.1 hmem with rfl | hmem
      · exact hfits
      · exact refsOf inner hfits.of_taskOf registered hmem
    · cases hmem
  | .array element collection, hfits, registered, hmem => by
    rw [Registration.refsOf] at hmem
    split at hmem
    · rcases List.mem_cons.1 hmem with rfl | hmem
      · exact hfits
      · split at hmem
        · rcases List.mem_cons.1 hmem with rfl | hmem
          · exact hfits.of_array.array _
          · rw [List.mem_singleton.1 hmem]
            exact hfits.of_array.array ""
        · cases hmem
    · cases hmem
  | .map key value collection, hfits, registered, hmem => by
    rw [Registration.refsOf] at hmem
    rcases List.mem_cons.1 hmem with rfl | hmem
    · exact hfits
    · split at hmem
      · rw [List.mem_singleton.1 hmem]
        exact hfits.of_map.1.map hfits.of_map.2 _
      · cases hmem
  | .generic .., hfits, registered, hmem | .custom _, hfits, registered, hmem => by
    rw [List.mem_singleton.1 hmem]
    exact hfits

end TypeRef.ShowsFitting

/-! ### A surface -/

/-- What a method's signature consists of is resolved without type parameters in scope. -/
def Method.Resolved (registry : Registry) (method : Method) : Prop :=
  ∀ ref ∈ method.signature, ∃ given space, registry.resolveValue given space [] = .ok ref

theorem resolved_of_takes {registry : Registry} {ignores : List String}
    {entries : List (Value × MethodKind × MethodDecl)} {found after : Discovery}
    (hrun : Takes registry ignores entries found after)
    (hfound : ∀ method ∈ found.methods, method.Resolved registry) :
    ∀ method ∈ after.methods, method.Resolved registry := by
  induction hrun with
  | done => exact hfound
  | next hstep _ ih =>
    refine ih ?_
    cases hstep with
    | ignored => exact hfound
    | duplicate => exact hfound
    | taken _ _ _ _ _ _ harguments hreturns hmethod hexplores =>
      rw [hexplores.frame.1, Discovery.methods_addMethod]
      intro other hother
      rcases List.mem_append.1 hother with hold | hlast
      · exact hfound other hold
      · rw [List.mem_singleton.1 hlast, hmethod]
        intro ref href
        rcases List.mem_append.1 href with htype | hresult
        · obtain ⟨argument, hargument, rfl⟩ := List.mem_map.1 htype
          have hmem := List.mem_map_of_mem (f := fun argument : Argument =>
            (Except.ok argument.type : Except Error TypeRef)) hargument
          rw [← types_of_argumentsOf harguments] at hmem
          obtain ⟨parameter, -, hresolve⟩ := List.mem_map.1 hmem
          exact ⟨_, _, hresolve⟩
        · rw [List.mem_singleton.1 hresult]
          exact ⟨_, _, hreturns⟩

section Inspected

variable {inspector : Inspector} {modules : List Descriptor} {surface : Surface}

theorem resolved_of_inspect (hinspect : (inspector.inspect modules).result = .ok surface) :
    ∀ method ∈ surface.methods, method.Resolved (Registry.ofModules modules) := by
  obtain ⟨warnings, log, after, htakes, rfl⟩ := takes_of_inspect hinspect
  exact resolved_of_takes htakes fun _ hmem => nomatch hmem

/-- Where no enumeration has type parameters, all that is shown of a registered reference fits. -/
theorem showsFitting_of_registered
    (hinspect : (inspector.inspect modules).result = .ok surface)
    (henums : ∀ decl ∈ modules.flatMap (·.types), decl.kind = .enumeration → decl.parameters = [])
    {ref : TypeRef} (href : ref ∈ Registration.refsOfSurface surface) :
    ref.ShowsFitting (Registry.ofModules modules) := by
  rcases List.mem_append.1 href with hsignature | hplain
  · obtain ⟨outer, houter, hmem⟩ := List.mem_flatMap.1 hsignature
    obtain ⟨method, hmethod, houter⟩ := List.mem_flatMap.1 houter
    obtain ⟨given, space, hresolve⟩ := resolved_of_inspect hinspect method hmethod outer houter
    exact TypeRef.ShowsFitting.refsOf outer (.resolveValue hresolve) ref hmem
  · obtain ⟨type, hkept, rfl⟩ := List.mem_map.1 hplain
    obtain ⟨htype, hnone⟩ := List.mem_filter.1 hkept
    obtain ⟨decl, space, hfind, hidentity, -, -, hdescribe⟩ := describedBy_of_inspect hinspect htype
    intro node hshown
    cases hshown
    refine ⟨decl, hfind, hidentity, ?_⟩
    rcases shape_of_describe hdescribe with ⟨hkind, -⟩ | ⟨-, members, bases, -, -, hshape⟩
    · rw [Registry.find?_ofModules] at hfind
      exact henums decl (List.mem_of_find?_eq_some hfind) hkind
    · simpa [DeclaredType.parameters, hshape] using hnone

end Inspected

/-! ### Open types -/

/-- The collections of the framework that have type parameters. -/
def Known.genericCollections : List String :=
  listCollections ++ mapCollections ++
    ["System.Collections.Generic.IEnumerable", "System.Collections.Generic.ISet",
      "System.Collections.Generic.HashSet"]

/-- A full name is that of a generic definition, and of nothing that is declared without type
parameters. -/
structure NamesGeneric (modules : List Descriptor) (name : String) : Prop where
  isGeneric : name ∈ Known.genericCollections ∨
    ∃ decl ∈ modules.flatMap (·.types), decl.parameters ≠ [] ∧ decl.identity.fullName = name
  notPlain : ∀ decl ∈ modules.flatMap (·.types), decl.identity.fullName = name →
    decl.parameters ≠ []

/-- The text of a reference itself, its parts aside, is that of a type parameter, or of a generic
definition without type arguments. Collections always have theirs. -/
inductive TypeRef.IsOpen (modules : List Descriptor) : TypeRef → Prop
  | parameter {name : String} : IsOpen modules (.parameter name)
  | bare {identity : TypeIdentity} {decl : TypeDecl} :
    (modules.flatMap (·.types)).find? (·.key == .text identity.key) = some decl →
    decl.parameters ≠ [] → IsOpen modules (.custom identity)
  | unapplied {identity : TypeIdentity} {decl : TypeDecl} :
    (modules.flatMap (·.types)).find? (·.key == .text identity.key) = some decl →
    decl.parameters ≠ [] → IsOpen modules (.generic identity [])
  | unresolved {managed : String} : '.' ∈ managed.toList → NamesGeneric modules managed →
    IsOpen modules (.unknown managed [])

/-- What fits is open only as a name that stands for nothing known as it is written. -/
theorem isOpen_iff_of_fits {modules : List Descriptor} {node : TypeRef}
    (hfits : node.Fits (Registry.ofModules modules)) :
    node.IsOpen modules ↔ ∃ managed, node = .unknown managed [] ∧ '.' ∈ managed.toList ∧
      NamesGeneric modules managed := by
  constructor
  · intro hopen
    cases hopen with
    | parameter => exact hfits.elim
    | @bare identity decl hfind hparameters =>
      obtain ⟨first, hfirst, -, hnone⟩ := hfits
      rw [Registry.find?_ofModules, hfind] at hfirst
      cases hfirst
      exact absurd hnone hparameters
    | unapplied => exact absurd rfl hfits.1
    | unresolved hdot hnames => exact ⟨_, rfl, hdot, hnames⟩
  · rintro ⟨managed, rfl, hdot, hnames⟩
    exact .unresolved hdot hnames

/-- The texts that are registered are those of some references. Provided that no enumeration declares
type parameters, such a text shows an open type if and only if a name is shown in it that is written
without type arguments, and so resolves to nothing, but is that of a generic definition. Declared types
are shown with as many arguments as they have parameters. -/
theorem open_iff_of_inspect {inspector : Inspector} {modules : List Descriptor} {surface : Surface}
    (hinspect : (inspector.inspect modules).result = .ok surface)
    (henums : ∀ decl ∈ modules.flatMap (·.types), decl.kind = .enumeration → decl.parameters = []) :
    Registration.ofSurface surface = Registration.distinct
        ((Registration.refsOfSurface surface).map (Registration.render surface)) ∧
      ∀ ref ∈ Registration.refsOfSurface surface, ∀ node, TypeRef.ShownIn node ref →
        Text.Within (Registration.render surface node) (Registration.render surface ref) ∧
          node.Fits (Registry.ofModules modules) ∧
          (node.IsOpen modules ↔ ∃ managed, node = .unknown managed [] ∧ '.' ∈ managed.toList ∧
            NamesGeneric modules managed) := by
  refine ⟨Registration.ofSurface_eq_distinct surface, fun ref href node hshown => ?_⟩
  have hfits := showsFitting_of_registered hinspect henums href node hshown
  exact ⟨Registration.within_render hshown, hfits, isOpen_iff_of_fits hfits⟩

theorem outcome_of_grade_closed :
    (trialsInspector.inspect [trialsModule]).result = .ok trialsSurface ∧
      markMethod.returns ∈ Registration.refsOfSurface trialsSurface ∧
      ¬ markMethod.returns.IsOpen [trialsModule] ∧
      (TypeRef.custom gradeDecl.identity).ShownIn markMethod.returns ∧
      ¬ (TypeRef.custom gradeDecl.identity).IsOpen [trialsModule] := by
  have href : markMethod.returns ∈ Registration.refsOfSurface trialsSurface :=
    List.mem_cons_of_mem _ List.mem_cons_self
  have hshown : (TypeRef.custom gradeDecl.identity).ShownIn markMethod.returns :=
    .argument List.mem_cons_self .here
  obtain ⟨-, hopen⟩ := open_iff_of_inspect inspect_trialsModule (by decide)
  refine ⟨inspect_trialsModule, href, ?_, hshown, ?_⟩
  · intro houtcome
    obtain ⟨managed, heq, -⟩ := (hopen _ href _ .here).2.2.1 houtcome
    cases heq
  · intro hgrade
    obtain ⟨managed, heq, -⟩ := (hopen _ href _ hshown).2.2.1 hgrade
    cases heq

/-! ### Lists of lists -/

/-- An enumeration that declares a type parameter. -/
def markDecl : TypeDecl where
  kind := .enumeration
  space := .text "ledger"
  name := .text "Mark"
  parameters := [.text "T"]
  members := []
  items := []
  bases := []
  isValueType := true

def ledgerModule : Descriptor where
  assembly := .text "Ledger"
  types := [markDecl]
  methods :=
    [invokableDecl "ledger" "Ledger" "Lists" "List<List>",
      invokableDecl "ledger" "Ledger" "Marks" "Mark<int>"]

def ledgerInspector : Inspector where
  resolver := { rules := [] }

def listsRef : TypeRef :=
  .array (.unknown "System.Collections.Generic.List" []) "System.Collections.Generic.List"

def marksRef : TypeRef :=
  .generic markDecl.identity [.primitive .number "System.Int32"]

def markType : DeclaredType where
  identity := markDecl.identity
  scriptSpace := "ledger"
  isValueType := true
  shape := .enumeration []

def ledgerSurface : Surface where
  methods :=
    [invokableMethod "ledger" "Ledger" "Lists" "lists" listsRef,
      invokableMethod "ledger" "Ledger" "Marks" "marks" marksRef]
  types := [markType]
  namespaces := ["ledger"]

def ledgerRegistry : Registry where
  decls := [markDecl]

theorem resolveValue_lists :
    ledgerRegistry.resolveValue (.text "List<List>") "ledger" [] = .ok listsRef :=
  Registry.resolveValue_eq_ok_iff.2
    ⟨_, .mk "List" [.mk "List" [] []] [], rfl, by cbv, by decide +kernel⟩

theorem resolveValue_marks :
    ledgerRegistry.resolveValue (.text "Mark<int>") "ledger" [] = .ok marksRef :=
  Registry.resolveValue_eq_ok_iff.2
    ⟨_, .mk "Mark" [.mk "int" [] []] [], rfl, by cbv, by decide +kernel⟩

theorem inspect_ledgerModule :
    (ledgerInspector.inspect [ledgerModule]).result = .ok ledgerSurface := by
  have hdeclared : declareModules [ledgerModule] ({}, { resolver := ledgerInspector.resolver }) =
      (ledgerRegistry, { resolver := ledgerInspector.resolver }) := rfl
  refine inspect_of_takes hdeclared
    ⟨_, .next (.taken rfl rfl rfl rfl rfl rfl rfl resolveValue_lists rfl .done)
      (.next (.taken rfl rfl rfl rfl rfl rfl rfl resolveValue_marks rfl
        (@Explores.described _ _ _ _ _ markDecl _ markType rfl rfl rfl rfl rfl .done)) .done), ?_⟩
  rfl

/-- Lists without a type of their elements are shown as such, and marks without their argument. -/
theorem open_ledger :
    (ledgerInspector.inspect [ledgerModule]).result = .ok ledgerSurface ∧
      (listsRef ∈ Registration.refsOfSurface ledgerSurface ∧
        (TypeRef.unknown "System.Collections.Generic.List" []).ShownIn listsRef ∧
        (TypeRef.unknown "System.Collections.Generic.List" []).IsOpen [ledgerModule] ∧
        ("global::System.Collections.Generic.List<global::System.Collections.Generic.List>") ∈
          Registration.ofSurface ledgerSurface) ∧
      (.custom markDecl.identity ∈ Registration.refsOfSurface ledgerSurface ∧
        (TypeRef.custom markDecl.identity).IsOpen [ledgerModule] ∧
        "global::ledger.Mark" ∈ Registration.ofSurface ledgerSurface) := by
  refine ⟨inspect_ledgerModule,
    ⟨List.mem_cons_self, .element .here, .unresolved (by decide) ⟨.inl (by decide), ?_⟩,
      by decide +kernel⟩,
    List.mem_cons_of_mem _ (List.mem_cons_of_mem _ List.mem_cons_self), ?_, by decide +kernel⟩
  · intro decl hdecl _
    rw [List.mem_singleton.1 hdecl]
    exact List.cons_ne_nil _ _
  · exact @TypeRef.IsOpen.bare [ledgerModule] markDecl.identity markDecl rfl
      (List.cons_ne_nil _ _)

end ScriptBridge
