import ScriptBridge.Proofs.Namespace.Answers
import ScriptBridge.Proofs.Outcome
import ScriptBridge.Proofs.Surface.FirstDeclaration

/-!
# Runs of discovery

What a successful run of discovery has done, one step after another: `Explores` for the types that are
pending, `Takes` for the methods. A property of what has been found that each kind of step keeps is kept
by every run.
-/

namespace ScriptBridge

/-- What has been found, after its resolver has been asked for a namespace. -/
def Discovery.asked (found : Discovery) (space : String) : Discovery :=
  { found with resolver := found.resolver.asked space }

/-- What has been found, with one more target name claimed. -/
def Discovery.claim (found : Discovery) (target : String × Bool × String) : Discovery :=
  { found with claimed := target :: found.claimed }

namespace Discovery

variable (found : Discovery) (method : Method) (type : DeclaredType) (scriptSpace : String)

@[simp]
theorem methods_asked (space : String) : (found.asked space).methods = found.methods := rfl

@[simp]
theorem types_asked (space : String) : (found.asked space).types = found.types := rfl

@[simp]
theorem methods_see : (found.see scriptSpace).methods = found.methods := by
  unfold see
  split <;> rfl

@[simp]
theorem resolver_see : (found.see scriptSpace).resolver = found.resolver := by
  unfold see
  split <;> rfl

@[simp]
theorem methods_addType : (found.addType type).methods = found.methods :=
  methods_see { found with types := found.types ++ [type] } type.scriptSpace

@[simp]
theorem resolver_addType : (found.addType type).resolver = found.resolver :=
  resolver_see { found with types := found.types ++ [type] } type.scriptSpace

@[simp]
theorem methods_addMethod : (found.addMethod method).methods = found.methods ++ [method] :=
  methods_see { found with methods := found.methods ++ [method] } method.scriptSpace

@[simp]
theorem types_addMethod : (found.addMethod method).types = found.types :=
  types_see { found with methods := found.methods ++ [method] } method.scriptSpace

@[simp]
theorem resolver_addMethod : (found.addMethod method).resolver = found.resolver :=
  resolver_see { found with methods := found.methods ++ [method] } method.scriptSpace

@[simp]
theorem warnings_asked (space : String) : (found.asked space).warnings = found.warnings := rfl

@[simp]
theorem warnings_see : (found.see scriptSpace).warnings = found.warnings := by
  unfold see
  split <;> rfl

@[simp]
theorem warnings_addType : (found.addType type).warnings = found.warnings :=
  warnings_see { found with types := found.types ++ [type] } type.scriptSpace

@[simp]
theorem warnings_addMethod : (found.addMethod method).warnings = found.warnings :=
  warnings_see { found with methods := found.methods ++ [method] } method.scriptSpace

@[simp]
theorem claimed_asked (space : String) : (found.asked space).claimed = found.claimed := rfl

@[simp]
theorem claimed_see : (found.see scriptSpace).claimed = found.claimed := by
  unfold see
  split <;> rfl

@[simp]
theorem claimed_addType : (found.addType type).claimed = found.claimed :=
  claimed_see { found with types := found.types ++ [type] } type.scriptSpace

@[simp]
theorem claimed_addMethod : (found.addMethod method).claimed = found.claimed :=
  claimed_see { found with methods := found.methods ++ [method] } method.scriptSpace

end Discovery

theorem resolveSpace_eq_ok_iff {given : Value} {found after : Discovery} {scriptSpace : String} :
    resolveSpace given found = (.ok scriptSpace, after) ↔
      ∃ space, given = .text space ∧ found.resolver.answer space = .ok scriptSpace ∧
        after = found.asked space := by
  cases given with
  | text space =>
    simp only [resolveSpace, Namespace.Resolver.answer, Discovery.asked,
      Namespace.Resolver.asked, Prod.mk.injEq, Value.text.injEq]
    constructor
    · rintro ⟨hanswer, rfl⟩
      exact ⟨space, rfl, hanswer, rfl⟩
    · rintro ⟨_, rfl, hanswer, rfl⟩
      exact ⟨hanswer, rfl⟩
  | _ => simp [resolveSpace]

theorem scriptSpace_of_describe {registry : Registry} {identity : TypeIdentity} {decl : TypeDecl}
    {scriptSpace : String} {type : DeclaredType}
    (hdescribe : describe registry identity decl scriptSpace = .ok type) :
    type.scriptSpace = scriptSpace := by
  obtain ⟨shape, -, hshape⟩ := Outcome.bind_eq_ok_iff.1 hdescribe
  cases hshape
  rfl

/-! ### Types -/

/-- A successful run over pending types. A type that is known, or not declared, is passed over; any
other is described, and what it refers to comes before what is still pending. -/
inductive Explores (registry : Registry) : List TypeIdentity → Discovery → Discovery → Prop
  | done {found : Discovery} : Explores registry [] found found
  | known {identity : TypeIdentity} {rest : List TypeIdentity} {found after : Discovery} :
    found.knows identity.key = true →
    Explores registry rest found after →
    Explores registry (identity :: rest) found after
  | undeclared {identity : TypeIdentity} {rest : List TypeIdentity} {found after : Discovery} :
    registry.find? identity.key = none →
    Explores registry rest found after →
    Explores registry (identity :: rest) found after
  | described {identity : TypeIdentity} {rest : List TypeIdentity} {found after : Discovery}
      {decl : TypeDecl} {space : String} {type : DeclaredType} :
    found.knows identity.key = false →
    registry.find? identity.key = some decl →
    decl.space = .text space →
    found.resolver.answer space = .ok type.scriptSpace →
    describe registry identity decl type.scriptSpace = .ok type →
    Explores registry (type.references ++ rest) ((found.asked space).addType type) after →
    Explores registry (identity :: rest) found after

theorem discover_nil (registry : Registry) (found : Discovery) :
    discover registry [] found = (.ok (), found) := by
  rw [discover]

theorem discover_cons (registry : Registry) (identity : TypeIdentity) (rest : List TypeIdentity)
    (found : Discovery) :
    discover registry (identity :: rest) found =
      if found.knows identity.key then discover registry rest found
      else
        match registry.find? identity.key with
        | none => discover registry rest found
        | some decl =>
          match resolveSpace decl.space found with
          | (.error e, after) => (.error e, after)
          | (.ok scriptSpace, after) =>
            match describe registry identity decl scriptSpace with
            | .error e => (.error e, after)
            | .ok type =>
              discover registry (type.references ++ rest)
                ({ found with resolver := after.resolver }.addType type) := by
  rw [discover]
  by_cases hknown : found.knows identity.key = true
  · rw [dif_pos hknown, if_pos hknown]
  · rw [dif_neg hknown, if_neg hknown]
    generalize registry.find? identity.key = declared
    cases declared with
    | none => rfl
    | some decl =>
      dsimp only
      generalize resolveSpace decl.space found = run
      obtain ⟨result, after⟩ := run
      cases result with
      | error e => rfl
      | ok scriptSpace =>
        dsimp only
        generalize describe registry identity decl scriptSpace = described
        cases described <;> rfl

theorem explores_of_discover {registry : Registry} {pending : List TypeIdentity}
    {found after : Discovery} (hrun : discover registry pending found = (.ok (), after)) :
    Explores registry pending found after := by
  induction pending, found using discover.induct registry with
  | case1 found =>
    rw [discover_nil] at hrun
    cases hrun
    exact .done
  | case2 found identity rest hknown ih =>
    rw [discover_cons, if_pos hknown] at hrun
    exact .known hknown (ih hrun)
  | case3 found identity rest hknown hnone ih =>
    rw [discover_cons, if_neg hknown, hnone] at hrun
    exact .undeclared hnone (ih hrun)
  | case4 found identity rest hknown decl hfind after' e hspace =>
    rw [discover_cons, if_neg hknown, hfind] at hrun
    simp only [hspace] at hrun
    cases hrun
  | case5 found identity rest hknown decl hfind after' scriptSpace hspace e hdescribe =>
    rw [discover_cons, if_neg hknown, hfind] at hrun
    simp only [hspace, hdescribe] at hrun
    cases hrun
  | case6 found identity rest hknown decl hfind after' scriptSpace hspace type hdescribe ih =>
    rw [discover_cons, if_neg hknown, hfind] at hrun
    simp only [hspace, hdescribe] at hrun
    obtain ⟨space, hdecl, hanswer, rfl⟩ := resolveSpace_eq_ok_iff.1 hspace
    obtain rfl := scriptSpace_of_describe hdescribe
    exact .described (by simpa using hknown) hfind hdecl hanswer hdescribe (ih hrun)

theorem discover_of_explores {registry : Registry} {pending : List TypeIdentity}
    {found after : Discovery} (hrun : Explores registry pending found after) :
    discover registry pending found = (.ok (), after) := by
  induction hrun with
  | done => exact discover_nil registry _
  | known hknows _ ih => rw [discover_cons, if_pos hknows, ih]
  | undeclared hnone _ ih =>
    rw [discover_cons]
    split
    · exact ih
    · rw [hnone]
      exact ih
  | described hfresh hfind hspace hanswer hdescribe _ ih =>
    have hresolve := resolveSpace_eq_ok_iff.2 ⟨_, hspace, hanswer, rfl⟩
    rw [discover_cons, if_neg (by simp [hfresh]), hfind]
    simp only [hresolve, hdescribe]
    exact ih

/-! ### Methods -/

/-- A successful step over a method. It is left out because its name is among those to be ignored, or
because its target name is claimed; otherwise it is taken, and the types that its signature mentions are
explored. -/
inductive Considers (registry : Registry) (ignores : List String) (assembly : Value)
    (kind : MethodKind) (decl : MethodDecl) : Discovery → Discovery → Prop
  | ignored {fullName : String} {found : Discovery} :
    decl.fullName? = some fullName →
    isIgnored ignores fullName decl.name = .ok true →
    Considers registry ignores assembly kind decl found
      (found.record .debug ("Ignoring " ++ fullName))
  | duplicate {fullName space scriptSpace name : String} {found : Discovery} :
    decl.fullName? = some fullName →
    isIgnored ignores fullName decl.name = .ok false →
    decl.space = .text space →
    found.resolver.answer space = .ok scriptSpace →
    decl.name = .text name →
    found.claimed.contains (scriptSpace, kind.isExport, Naming.lowerFirst name) = true →
    Considers registry ignores assembly kind decl found
      ((found.asked space).warn (assembly.display ++ ": " ++ fullName ++ " duplicates " ++
        scriptSpace ++ "." ++ Naming.lowerFirst name ++ ", ignoring"))
  | taken {fullName space scriptSpace name : String} {arguments : List Argument} {returns : TypeRef}
      {method : Method} {found after : Discovery} :
    decl.fullName? = some fullName →
    isIgnored ignores fullName decl.name = .ok false →
    decl.space = .text space →
    found.resolver.answer space = .ok scriptSpace →
    decl.name = .text name →
    found.claimed.contains (scriptSpace, kind.isExport, Naming.lowerFirst name) = false →
    argumentsOf registry space decl.parameters = .ok arguments →
    registry.resolveValue decl.returns space [] = .ok returns →
    method =
      { kind, assembly, owner := decl.owner, space, scriptSpace, name,
        scriptName := Naming.lowerFirst name, arguments, returns } →
    Explores registry (method.signature.flatMap TypeRef.identities)
      (((found.asked space).claim
        (scriptSpace, kind.isExport, Naming.lowerFirst name)).addMethod method) after →
    Considers registry ignores assembly kind decl found after

/-- A successful run over the methods of some modules. -/
inductive Takes (registry : Registry) (ignores : List String) :
    List (Value × MethodKind × MethodDecl) → Discovery → Discovery → Prop
  | done {found : Discovery} : Takes registry ignores [] found found
  | next {assembly : Value} {kind : MethodKind} {decl : MethodDecl}
      {rest : List (Value × MethodKind × MethodDecl)} {found middle after : Discovery} :
    Considers registry ignores assembly kind decl found middle →
    Takes registry ignores rest middle after →
    Takes registry ignores ((assembly, kind, decl) :: rest) found after

variable {registry : Registry} {ignores : List String} {assembly : Value} {kind : MethodKind}
  {decl : MethodDecl} {found after : Discovery}

theorem textName_eq_ok_iff {given : Value} {name : String} :
    textName given = .ok name ↔ given = .text name := by
  cases given <;> simp [textName]

theorem considers_of_takeMethod {fullName : String} (hname : decl.fullName? = some fullName)
    (hkept : isIgnored ignores fullName decl.name = .ok false)
    (hrun : takeMethod registry assembly kind decl fullName found = (.ok (), after)) :
    Considers registry ignores assembly kind decl found after := by
  unfold takeMethod at hrun
  split at hrun
  · cases hrun
  · rename_i scriptSpace asked hspace
    obtain ⟨space, hdecl, hanswer, rfl⟩ := resolveSpace_eq_ok_iff.1 hspace
    split at hrun
    · cases hrun
    · rename_i name htext
      have htext := textName_eq_ok_iff.1 htext
      simp only at hrun
      split at hrun
      · rename_i hclaimed
        cases hrun
        exact .duplicate hname hkept hdecl hanswer htext hclaimed
      · rename_i hfree
        split at hrun
        · cases hrun
        · rename_i arguments returns hsignature
          rw [hdecl] at hsignature hrun
          obtain ⟨_, harguments, hrest⟩ := Outcome.bind_eq_ok_iff.1 hsignature
          obtain ⟨_, hreturns, hpair⟩ := Outcome.bind_eq_ok_iff.1 hrest
          cases hpair
          exact .taken hname hkept hdecl hanswer htext (by simpa [Discovery.asked] using hfree)
            harguments hreturns rfl (explores_of_discover hrun)

theorem considers_of_considerMethod
    (hrun : considerMethod registry ignores assembly kind decl found = (.ok (), after)) :
    Considers registry ignores assembly kind decl found after := by
  unfold considerMethod at hrun
  split at hrun
  · cases hrun
  · rename_i fullName hname
    split at hrun
    · cases hrun
    · rename_i hignored
      cases hrun
      exact .ignored hname hignored
    · rename_i hkept
      simp only [Prod.mk.injEq] at hrun
      obtain ⟨hresult, rfl⟩ := hrun
      refine considers_of_takeMethod hname hkept (Prod.ext ?_ rfl)
      cases htake : (takeMethod registry assembly kind decl fullName found).1 with
      | error e => simp [htake, Except.mapError] at hresult
      | ok => rfl

theorem takes_of_considerMethods {entries : List (Value × MethodKind × MethodDecl)}
    (hrun : considerMethods registry ignores entries found = (.ok (), after)) :
    Takes registry ignores entries found after := by
  induction entries generalizing found with
  | nil =>
    cases hrun
    exact .done
  | cons entry rest ih =>
    obtain ⟨assembly, kind, decl⟩ := entry
    rw [considerMethods] at hrun
    split at hrun
    · cases hrun
    · rename_i hconsider
      exact .next (considers_of_considerMethod hconsider) (ih hrun)

theorem considerMethod_of_considers
    (hrun : Considers registry ignores assembly kind decl found after) :
    considerMethod registry ignores assembly kind decl found = (.ok (), after) := by
  cases hrun with
  | ignored hname hignored => simp only [considerMethod, hname, hignored]
  | duplicate hname hkept hspace hanswer htext hclaimed =>
    have hresolve := resolveSpace_eq_ok_iff.2 ⟨_, hspace, hanswer, rfl⟩
    have hname' := textName_eq_ok_iff.2 htext
    simp only [considerMethod, hname, hkept, takeMethod, hresolve, hname', Discovery.asked,
      hclaimed, if_true]
    rfl
  | @taken _ space _ _ _ _ _ _ _ hname hkept hspace hanswer htext hfree harguments hreturns hmethod
      hexplores =>
    have hresolve := resolveSpace_eq_ok_iff.2 ⟨_, hspace, hanswer, rfl⟩
    have hname' := textName_eq_ok_iff.2 htext
    have hdisplay : decl.space.display = space := by rw [hspace, Value.display]
    have hdiscover := discover_of_explores hexplores
    subst hmethod
    simp only [considerMethod, hname, hkept, takeMethod, hresolve, hname', Discovery.asked, hfree,
      hdisplay, harguments, hreturns]
    exact congrArg (fun run : Except Error Unit × Discovery => (run.1.mapError _, run.2)) hdiscover

theorem considerMethods_of_takes {entries : List (Value × MethodKind × MethodDecl)}
    (hrun : Takes registry ignores entries found after) :
    considerMethods registry ignores entries found = (.ok (), after) := by
  induction hrun with
  | done => rfl
  | next hstep _ ih =>
    rw [considerMethods, considerMethod_of_considers hstep]
    exact ih

/-! ### Inspections -/

/-- A successful inspection is a run over the interop methods, begun with what declaring the types has
left. -/
theorem takes_declared_of_inspect {inspector : Inspector} {modules : List Descriptor}
    {surface : Surface} (hinspect : (inspector.inspect modules).result = .ok surface) :
    ∃ after,
      Takes (Registry.ofModules modules) inspector.ignores (interopMethods modules)
        (declareModules modules ({}, { resolver := inspector.resolver })).2 after ∧
      surface = after.surface := by
  have hregistry := fst_declareModules modules { resolver := inspector.resolver }
  simp only [Inspector.inspect, Inspector.state_reset, hregistry] at hinspect
  cases hmethods : considerMethods (Registry.ofModules modules) inspector.ignores
      (interopMethods modules) (declareModules modules ({}, { resolver := inspector.resolver })).2 with
  | mk result after =>
    rw [hmethods] at hinspect
    cases result with
    | error e => cases hinspect
    | ok =>
      cases hinspect
      exact ⟨after, takes_of_considerMethods hmethods, rfl⟩

theorem inspect_of_takes {inspector : Inspector} {modules : List Descriptor} {surface : Surface}
    {registry : Registry} {declared : Discovery}
    (hdeclared : declareModules modules ({}, { resolver := inspector.resolver }) = (registry, declared))
    (hrun : ∃ after, Takes registry inspector.ignores (interopMethods modules) declared after ∧
      after.surface = surface) :
    (inspector.inspect modules).result = .ok surface := by
  obtain ⟨after, htakes, rfl⟩ := hrun
  simp only [Inspector.inspect, Inspector.state_reset, hdeclared, considerMethods_of_takes htakes]
  rfl

/-- A successful inspection begins with nothing found but warnings. -/
theorem takes_of_inspect {inspector : Inspector} {modules : List Descriptor} {surface : Surface}
    (hinspect : (inspector.inspect modules).result = .ok surface) :
    ∃ warnings log after,
      Takes (Registry.ofModules modules) inspector.ignores (interopMethods modules)
        { resolver := inspector.resolver, warnings, log } after ∧
      surface = after.surface := by
  obtain ⟨after, htakes, hsurface⟩ := takes_declared_of_inspect hinspect
  obtain ⟨warnings, log, hdeclared⟩ :=
    snd_declareModules modules {} { resolver := inspector.resolver }
  exact ⟨warnings, log, after, hdeclared ▸ htakes, hsurface⟩

/-! ### What every run keeps -/

/-- A property of what has been found that every kind of step keeps. -/
structure Discovery.Kept (P : Discovery → Prop) : Prop where
  record : ∀ found level message, P found → P (found.record level message)
  warn : ∀ found message, P found → P (found.warn message)
  asked : ∀ found space, P found → P (found.asked space)
  claim : ∀ found target, P found → P (found.claim target)
  addMethod : ∀ found space method, P found →
    found.resolver.answer space = .ok method.scriptSpace → P (found.addMethod method)
  addType : ∀ found space type, P found →
    found.resolver.answer space = .ok type.scriptSpace → P (found.addType type)

variable {P : Discovery → Prop}

theorem Discovery.Kept.of_explores (hkept : Discovery.Kept P) {pending : List TypeIdentity}
    (hrun : Explores registry pending found after) (hfound : P found) : P after := by
  induction hrun with
  | done => exact hfound
  | known _ _ ih => exact ih hfound
  | undeclared _ _ ih => exact ih hfound
  | @described _ _ found _ _ space type _ _ _ hanswer _ _ ih =>
    refine ih (hkept.addType _ space _ (hkept.asked _ _ hfound) ?_)
    exact (found.resolver.answer_asked space space).trans hanswer

theorem Discovery.Kept.of_considers (hkept : Discovery.Kept P)
    (hrun : Considers registry ignores assembly kind decl found after) (hfound : P found) :
    P after := by
  cases hrun with
  | ignored => exact hkept.record _ _ _ hfound
  | duplicate => exact hkept.warn _ _ (hkept.asked _ _ hfound)
  | @taken _ space _ _ _ _ method _ _ _ _ _ hanswer _ _ _ _ hmethod hexplores =>
    refine hkept.of_explores hexplores (hkept.addMethod _ space _ ?_ ?_)
    · exact hkept.claim _ _ (hkept.asked _ _ hfound)
    · rw [hmethod]
      exact (found.resolver.answer_asked space space).trans hanswer

theorem Discovery.Kept.of_takes (hkept : Discovery.Kept P)
    {entries : List (Value × MethodKind × MethodDecl)}
    (hrun : Takes registry ignores entries found after) (hfound : P found) : P after := by
  induction hrun with
  | done => exact hfound
  | next hstep _ ih => exact ih (hkept.of_considers hstep hfound)

end ScriptBridge
