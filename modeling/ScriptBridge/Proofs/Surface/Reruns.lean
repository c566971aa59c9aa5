import ScriptBridge.Proofs.Surface.Reach
import ScriptBridge.Proofs.Surface.Steps

/-!
# One run after another

An inspector may have run before, to the end or not. Neither what the last run has left nor what the
resolver remembers shows in the outcome of the next.

What a run has left is cleared when the next begins. The resolver is not, so the rest is about discoveries
that differ in nothing but what their resolvers remember: each step of discovery has one result from both,
and leaves them so.
-/

namespace ScriptBridge

open Namespace

namespace Namespace.Resolver

/-- A resolver with the rules and the answers of another. -/
structure Agrees (resolver other : Resolver) : Prop where
  rules : other.rules = resolver.rules
  answers : ∀ space, other.answer space = resolver.answer space

variable {resolver other third : Resolver}

theorem Agrees.refl (resolver : Resolver) : resolver.Agrees resolver := ⟨rfl, fun _ => rfl⟩

theorem Agrees.symm (hagrees : resolver.Agrees other) : other.Agrees resolver :=
  ⟨hagrees.rules.symm, fun space => (hagrees.answers space).symm⟩

theorem Agrees.trans (hfirst : resolver.Agrees other) (hsecond : other.Agrees third) :
    resolver.Agrees third :=
  ⟨hsecond.rules.trans hfirst.rules, fun space => (hsecond.answers space).trans (hfirst.answers space)⟩

theorem agrees_asked (resolver : Resolver) (space : String) :
    resolver.Agrees (resolver.asked space) :=
  ⟨resolver.rules_asked space, resolver.answer_asked space⟩

/-- Resolvers made from the same rules agree, whatever they have been asked for. -/
theorem Reachable.agrees (hresolver : resolver.Reachable) (hother : other.Reachable)
    (hrules : other.rules = resolver.rules) : resolver.Agrees other := by
  refine ⟨hrules, fun space => ?_⟩
  rw [hother.answer_eq_resolve, hresolver.answer_eq_resolve, hrules]

end Namespace.Resolver

/-! ### Discoveries that are alike -/

/-- The same has been found, by resolvers that agree. -/
structure Discovery.Alike (found other : Discovery) : Prop where
  agrees : found.resolver.Agrees other.resolver
  same : other = { found with resolver := other.resolver }

/-- An update leaves the resolver as it is and does not look at it. -/
def Discovery.Independent (f : Discovery → Discovery) : Prop :=
  ∀ found resolver, f { found with resolver } = { f found with resolver }

namespace Discovery

section Updates

variable {found other : Discovery} {f : Discovery → Discovery}

theorem Independent.resolver (hf : Independent f) (found : Discovery) :
    (f found).resolver = found.resolver := by
  have hsame : f found = { f found with resolver := found.resolver } := hf found found.resolver
  rw [hsame]

theorem Alike.refl (found : Discovery) : found.Alike found := ⟨.refl _, rfl⟩

theorem Alike.update (halike : found.Alike other) (hf : Independent f) :
    (f found).Alike (f other) where
  agrees := by
    rw [hf.resolver, hf.resolver]
    exact halike.agrees
  same := by
    rw [hf.resolver, ← hf, ← halike.same]

theorem Alike.asked (halike : found.Alike other) (space : String) :
    (found.asked space).Alike (other.asked space) where
  agrees := ((found.resolver.agrees_asked space).symm.trans halike.agrees).trans
    (other.resolver.agrees_asked space)
  same := by
    rw [Discovery.asked, Discovery.asked, halike.same]

theorem independent_record (level : LogLevel) (message : String) :
    Independent (·.record level message) := fun _ _ => rfl

theorem independent_warn (message : String) : Independent (·.warn message) := fun _ _ => rfl

theorem independent_claim (target : String × Bool × String) : Independent (·.claim target) :=
  fun _ _ => rfl

theorem independent_see (scriptSpace : String) : Independent (·.see scriptSpace) := by
  intro found resolver
  unfold see
  dsimp only
  split <;> rfl

theorem independent_addMethod (method : Method) : Independent (·.addMethod method) :=
  fun found => independent_see method.scriptSpace { found with methods := found.methods ++ [method] }

theorem independent_addType (type : DeclaredType) : Independent (·.addType type) := by
  intro found resolver
  have hsee := independent_see type.scriptSpace { found with types := found.types ++ [type] } resolver
  exact congrArg (fun seen : Discovery => seen.record .debug _) hsee

end Updates

end Discovery

/-! ### Steps -/

/-- From what is found, and from whatever is like it, a step has one result and leaves what is alike. -/
structure SteadyAt {α : Type} (step : Discover α) (found : Discovery) : Prop where
  agrees : found.resolver.Agrees (step found).2.resolver
  alike : ∀ other, found.Alike other →
    (step other).1 = (step found).1 ∧ (step found).2.Alike (step other).2

section Steps

variable {α β : Type} {step : Discover α} {found : Discovery} {f : Discovery → Discovery}

theorem steadyAt_lift (result : Except Error α) (found : Discovery) :
    SteadyAt (Discover.lift result) found where
  agrees := .refl _
  alike _ halike := ⟨rfl, halike⟩

/-- An update may come before a step. -/
theorem SteadyAt.updated (hf : Discovery.Independent f) (hstep : SteadyAt step (f found)) :
    SteadyAt (fun found => step (f found)) found where
  agrees := by
    rw [← hf.resolver found]
    exact hstep.agrees
  alike other halike := hstep.alike _ (halike.update hf)

/-- Only what a step does from what is alike counts. -/
theorem SteadyAt.congr {other : Discover α} (hsame : ∀ like, found.Alike like → step like = other like)
    (hother : SteadyAt other found) : SteadyAt step found where
  agrees := by
    rw [hsame found (.refl found)]
    exact hother.agrees
  alike like halike := by
    rw [hsame like halike, hsame found (.refl found)]
    exact hother.alike like halike

/-- A step may be followed by another unless it fails. -/
theorem SteadyAt.andThen {next : α → Discover β} (hstep : SteadyAt step found)
    (hnext : ∀ a, (step found).1 = .ok a → SteadyAt (next a) (step found).2) :
    SteadyAt (step.andThen next) found := by
  cases hresult : (step found).1 with
  | error e =>
    have hfails : step.andThen next found = (.error e, (step found).2) :=
      Discover.andThen_of_error hresult
    refine ⟨hfails ▸ hstep.agrees, fun other halike => ?_⟩
    obtain ⟨hsame, hafter⟩ := hstep.alike other halike
    rw [hfails, Discover.andThen_of_error (hsame.trans hresult)]
    exact ⟨rfl, hafter⟩
  | ok a =>
    have hgoes : step.andThen next found = next a (step found).2 := Discover.andThen_of_ok hresult
    have hrest := hnext a hresult
    refine ⟨hgoes ▸ hstep.agrees.trans hrest.agrees, fun other halike => ?_⟩
    obtain ⟨hsame, hafter⟩ := hstep.alike other halike
    rw [hgoes, Discover.andThen_of_ok (hsame.trans hresult)]
    exact hrest.alike _ hafter

theorem steadyAt_resolveSpace (given : Value) (found : Discovery) :
    SteadyAt (resolveSpace given) found := by
  cases given with
  | text space =>
    refine ⟨found.resolver.agrees_asked space, fun other halike => ⟨?_, halike.asked space⟩⟩
    exact halike.agrees.answers space
  | _ =>
    refine ⟨.refl _, fun other halike => ⟨?_, halike⟩⟩
    simp only [resolveSpace, halike.agrees.rules]

/-- A pending type that is described needs only what comes after it to be steady. -/
theorem steadyAt_discover_of_fresh {registry : Registry} {identity : TypeIdentity} {decl : TypeDecl}
    (rest : List TypeIdentity) (hfresh : found.knows identity.key = false)
    (hfind : registry.find? identity.key = some decl)
    (hrest : ∀ scriptSpace after type, resolveSpace decl.space found = (.ok scriptSpace, after) →
      describe registry identity decl scriptSpace = .ok type →
      SteadyAt (discover registry (type.references ++ rest))
        ({ found with resolver := after.resolver }.addType type)) :
    SteadyAt (discover registry (identity :: rest)) found := by
  refine .congr (fun like halike => discover_cons_of_fresh rest (halike.same ▸ hfresh) hfind) ?_
  refine (steadyAt_resolveSpace decl.space found).andThen fun scriptSpace hspace => ?_
  refine (steadyAt_lift (describe registry identity decl scriptSpace) _).andThen
    fun type hdescribe => SteadyAt.updated (Discovery.independent_addType type) ?_
  have hrun : resolveSpace decl.space found = (.ok scriptSpace, (resolveSpace decl.space found).2) :=
    Prod.ext hspace rfl
  have hnext := hrest scriptSpace _ type hrun hdescribe
  obtain ⟨space, -, -, hafter⟩ := resolveSpace_eq_ok_iff.1 hrun
  rw [hafter] at hnext
  rw [Discover.lift, hafter]
  exact hnext

theorem steadyAt_discover (registry : Registry) (pending : List TypeIdentity) (found : Discovery) :
    SteadyAt (discover registry pending) found := by
  induction pending, found using discover.induct registry with
  | case1 found =>
    exact .congr (fun like _ => discover_nil registry like) (steadyAt_lift (.ok ()) found)
  | case2 found identity rest hknown ih =>
    exact .congr (fun like halike => discover_cons_of_passed rest (.inl (halike.same ▸ hknown))) ih
  | case3 found identity rest hknown hnone ih =>
    exact .congr (fun like _ => discover_cons_of_passed rest (.inr hnone)) ih
  | case4 found identity rest hknown decl hfind after e hspace =>
    refine steadyAt_discover_of_fresh rest (by simpa using hknown) hfind
      fun scriptSpace after' type hrun _ => ?_
    rw [hspace] at hrun
    cases hrun
  | case5 found identity rest hknown decl hfind after scriptSpace hspace e hdescribe =>
    refine steadyAt_discover_of_fresh rest (by simpa using hknown) hfind
      fun scriptSpace' after' type hrun hdescribed => ?_
    rw [hspace] at hrun
    cases hrun
    rw [hdescribe] at hdescribed
    cases hdescribed
  | case6 found identity rest hknown decl hfind after scriptSpace hspace type hdescribe ih =>
    refine steadyAt_discover_of_fresh rest (by simpa using hknown) hfind
      fun scriptSpace' after' type' hrun hdescribed => ?_
    rw [hspace] at hrun
    cases hrun
    rw [hdescribe] at hdescribed
    cases hdescribed
    exact ih

theorem steadyAt_takeNamed (registry : Registry) (assembly : Value) (kind : MethodKind)
    (decl : MethodDecl) (fullName scriptSpace name : String) (found : Discovery) :
    SteadyAt (takeNamed registry assembly kind decl fullName scriptSpace name) found := by
  cases hclaimed : found.claimed.contains (scriptSpace, kind.isExport, Naming.lowerFirst name) with
  | true =>
    refine .congr (fun like halike => takeNamed_of_claimed registry assembly kind decl fullName
      (halike.same ▸ hclaimed)) ?_
    exact SteadyAt.updated (Discovery.independent_warn _) (steadyAt_lift (.ok ()) _)
  | false =>
    refine .congr (fun like halike => takeNamed_of_free registry assembly kind decl fullName
      (halike.same ▸ hclaimed)) ?_
    refine SteadyAt.updated (Discovery.independent_claim _) ?_
    refine (steadyAt_lift (signatureOf registry decl) _).andThen fun signature _ => ?_
    exact SteadyAt.updated (Discovery.independent_addMethod _) (steadyAt_discover registry _ _)

theorem steadyAt_takeMethod (registry : Registry) (assembly : Value) (kind : MethodKind)
    (decl : MethodDecl) (fullName : String) (found : Discovery) :
    SteadyAt (takeMethod registry assembly kind decl fullName) found := by
  rw [takeMethod_eq]
  refine (steadyAt_resolveSpace decl.space found).andThen fun scriptSpace _ => ?_
  refine (steadyAt_lift (textName decl.name) _).andThen fun name _ => ?_
  exact steadyAt_takeNamed registry assembly kind decl fullName scriptSpace name _

/-- The error of a step may be told in another way. -/
theorem SteadyAt.mapError (tell : Error → Error) (hstep : SteadyAt step found) :
    SteadyAt (fun found => ((step found).1.mapError tell, (step found).2)) found where
  agrees := hstep.agrees
  alike other halike := by
    obtain ⟨hresult, hafter⟩ := hstep.alike other halike
    exact ⟨by rw [hresult], hafter⟩

theorem steadyAt_considerMethod (registry : Registry) (ignores : List String) (assembly : Value)
    (kind : MethodKind) (decl : MethodDecl) (found : Discovery) :
    SteadyAt (considerMethod registry ignores assembly kind decl) found := by
  cases hname : decl.fullName? with
  | none =>
    refine .congr (fun like _ => ?_) (steadyAt_lift (.error (.misused .nameNotText)) found)
    simp only [considerMethod, hname, Discover.lift]
  | some fullName =>
    cases hignored : isIgnored ignores fullName decl.name with
    | error e =>
      refine .congr (fun like _ => ?_) (steadyAt_lift (.error e) found)
      simp only [considerMethod, hname, hignored, Discover.lift]
    | ok ignored =>
      cases ignored with
      | true =>
        refine .congr (fun like _ => ?_) (SteadyAt.updated
          (Discovery.independent_record .debug ("Ignoring " ++ fullName)) (steadyAt_lift (.ok ()) _))
        simp only [considerMethod, hname, hignored, Discover.lift]
      | false =>
        refine .congr (fun like _ => considerMethod_of_kept registry ignores assembly kind decl fullName
          hname hignored) ?_
        exact (steadyAt_takeMethod registry assembly kind decl fullName found).mapError
          fun e => (e.within fullName).within assembly.display

theorem steadyAt_considerMethods (registry : Registry) (ignores : List String)
    (entries : List (Value × MethodKind × MethodDecl)) (found : Discovery) :
    SteadyAt (considerMethods registry ignores entries) found := by
  induction entries generalizing found with
  | nil => exact .congr (fun like _ => rfl) (steadyAt_lift (.ok ()) found)
  | cons entry rest ih =>
    obtain ⟨assembly, kind, decl⟩ := entry
    rw [considerMethods_cons]
    exact (steadyAt_considerMethod registry ignores assembly kind decl found).andThen fun _ _ => ih _

end Steps

/-! ### Declared types -/

section Declared

variable {found other : Discovery}

theorem alike_declareTypes (assembly : Value) (decls : List TypeDecl) (registry : Registry)
    (halike : found.Alike other) :
    (declareTypes assembly decls (registry, found)).2.Alike
      (declareTypes assembly decls (registry, other)).2 := by
  induction decls generalizing registry found other with
  | nil => exact halike
  | cons decl decls ih =>
    rw [declareTypes, declareTypes]
    split
    · exact ih registry (halike.update (Discovery.independent_warn _))
    · exact ih (registry.add decl) halike

theorem alike_declareModules (modules : List Descriptor) (registry : Registry)
    (halike : found.Alike other) :
    (declareModules modules (registry, found)).2.Alike (declareModules modules (registry, other)).2 := by
  unfold declareModules
  induction modules generalizing registry found other with
  | nil => exact halike
  | cons module modules ih =>
    have hother : declareTypes module.assembly module.types (registry, other) =
        ((declareTypes module.assembly module.types (registry, found)).1,
          (declareTypes module.assembly module.types (registry, other)).2) :=
      Prod.ext ((fst_declareTypes ..).trans (fst_declareTypes ..).symm) rfl
    rw [List.foldl_cons, List.foldl_cons, hother]
    exact ih _ (alike_declareTypes module.assembly module.types registry halike)

end Declared

/-! ### Inspections -/

namespace Inspector

/-- What has been found when the types of some modules have been declared, and no method considered. -/
def declared (inspector : Inspector) (modules : List Descriptor) : Discovery :=
  (declareModules modules ({}, { resolver := inspector.resolver })).2

variable {inspector other : Inspector} {modules : List Descriptor}

theorem inspect_eq (inspector : Inspector) (modules : List Descriptor) :
    inspector.inspect modules =
      let run := considerMethods (Registry.ofModules modules) inspector.ignores
        (interopMethods modules) (inspector.declared modules)
      { result := run.1.map fun _ => run.2.surface, log := run.2.log,
        inspector := inspector.keep (Registry.ofModules modules) run.2 } := by
  simp only [inspect, state_reset, fst_declareModules, declared]

/-- What an earlier run has left behind does not show in an inspection, nor does what the resolver
remembers. -/
theorem result_inspect_of_agrees (hignores : other.ignores = inspector.ignores)
    (hagrees : inspector.resolver.Agrees other.resolver) :
    (other.inspect modules).result = (inspector.inspect modules).result := by
  have hstart : Discovery.Alike { resolver := inspector.resolver } { resolver := other.resolver } :=
    ⟨hagrees, rfl⟩
  obtain ⟨hresult, hafter⟩ := (steadyAt_considerMethods (Registry.ofModules modules) inspector.ignores
    (interopMethods modules) (inspector.declared modules)).alike _
      (alike_declareModules modules {} hstart)
  rw [inspect_eq, inspect_eq, hignores]
  dsimp only
  rw [declared, hresult, hafter.same]
  rfl

/-- An inspection leaves the ignored names as they are, and a resolver that answers as before. -/
theorem agrees_inspect (inspector : Inspector) (modules : List Descriptor) :
    inspector.resolver.Agrees (inspector.inspect modules).inspector.resolver := by
  obtain ⟨warnings, log, hdeclared⟩ := snd_declareModules modules {} { resolver := inspector.resolver }
  have hrun := (steadyAt_considerMethods (Registry.ofModules modules) inspector.ignores
    (interopMethods modules) (inspector.declared modules)).agrees
  rw [inspect_eq]
  rw [declared, hdeclared] at hrun ⊢
  exact hrun

/-- Each of some runs in turn, failures among them, comes out as it would with an inspector of its own
that has just been made for the same rules and the same ignored names. -/
theorem inspectAll_eq_map_fresh {rules : List NamespaceRule} {fresh : Resolver}
    (hfresh : Resolver.ofRules rules = .ok fresh) (hreachable : inspector.resolver.Reachable)
    (hrules : inspector.resolver.rules = fresh.rules) (runs : List (List Descriptor)) :
    inspector.inspectAll runs = runs.map fun modules =>
      (({ resolver := fresh, ignores := inspector.ignores } : Inspector).inspect modules).result := by
  have hagrees : fresh.Agrees inspector.resolver := (Resolver.Reachable.made hfresh).agrees hreachable hrules
  clear hreachable hrules
  induction runs generalizing inspector with
  | nil => rfl
  | cons modules runs ih =>
    rw [inspectAll, List.map_cons]
    refine congrArg₂ _ (result_inspect_of_agrees rfl hagrees) ?_
    exact ih (hagrees.trans (inspector.agrees_inspect modules))

end Inspector

/-! ### A list once more -/

/-- Where the type of the tail breaks off, so does the run. -/
def tailModule : Descriptor where
  assembly := .text "Lists"
  types := [nodeDecl, colourDecl]
  methods := [listMethodDecl "Tail" "Node<"]

/-- A run that broke off at the tail has left the head with the types that it mentions. -/
def usedInspector : Inspector where
  resolver := { rules := [], resolved := [("lists", "lists")] }
  registry := listRegistry
  methods := [headMethod]
  types := [nodeType, colourType]
  namespaces := ["lists"]
  claimed := [("lists", true, "tail"), ("lists", true, "head")]

def tailError : Error :=
  .rejected ["Lists", "lists.Lists.Tail"] (.invalidExpression "Node<" .unexpectedEnd)

theorem inspect_tailModule : (listInspector.inspect [tailModule]).result = .error tailError := by
  cbv

theorem reachable_usedInspector : usedInspector.resolver.Reachable :=
  .asked "lists" (@Resolver.Reachable.made [] { rules := [] } rfl)

/-- The list comes out whole before a run that fails and after it. -/
theorem inspectAll_usedInspector :
    Resolver.ofRules [] = .ok listInspector.resolver ∧ usedInspector.resolver.Reachable ∧
      usedInspector.resolver.rules = listInspector.resolver.rules ∧
      usedInspector.inspectAll [[listModule], [tailModule], [listModule]] =
        [.ok listSurface, .error tailError, .ok listSurface] := by
  refine ⟨rfl, reachable_usedInspector, rfl, ?_⟩
  have hruns := Inspector.inspectAll_eq_map_fresh (@rfl _ (Resolver.ofRules []))
    reachable_usedInspector rfl [[listModule], [tailModule], [listModule]]
  rw [hruns, List.map_cons, List.map_cons, List.map_singleton]
  exact congrArg₂ _ inspect_listModule (congrArg₂ _ inspect_tailModule
    (congrArg₂ _ inspect_listModule rfl))

end ScriptBridge
