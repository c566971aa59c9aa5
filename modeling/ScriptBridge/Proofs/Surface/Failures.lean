import ScriptBridge.Proofs.Namespace.Replacement
import ScriptBridge.Proofs.Surface.Faults
import ScriptBridge.Proofs.Surface.Reruns

/-!
# When an inspection fails

An inspection of modules that have texts where they should, under rules that name groups of their
patterns, fails if and only if a method is at fault that is neither left out nor dropped. The error is a
defect of the first such method, under its names.
-/

namespace ScriptBridge

open Namespace

variable {registry : Registry} {resolver : Resolver} {defect : Defect} {e : Error}

/-! ### Runs -/

section Runs

variable {ignores : List String} {earlier entries : List (Value × MethodKind × MethodDecl)}
  {found after : Discovery}

theorem exists_of_firstFault {entry : Value × MethodKind × MethodDecl}
    (hfirst : FirstFault registry resolver earlier entries entry defect) :
    ∃ pair ∈ withEarlier earlier entries, ∃ other, Faulty registry resolver pair.1 pair.2 other := by
  induction hfirst with
  | here hfaulty => exact ⟨_, List.mem_cons_self, _, hfaulty⟩
  | later _ _ ih =>
    obtain ⟨pair, hpair, hfaulty⟩ := ih
    exact ⟨pair, List.mem_cons_of_mem _ hpair, hfaulty⟩

/-- No method of a run that comes to its end is at fault. -/
theorem not_faulty_of_takes (hrun : Takes registry ignores entries found after)
    (hclaims : ClaimedBy resolver earlier found) (hfrontier : Frontier registry resolver [] found) :
    ∀ pair ∈ withEarlier earlier (entries.filter fun (_, _, decl) => !decl.isAmong ignores),
      ∀ defect, ¬ Faulty registry resolver pair.1 pair.2 defect := by
  induction hrun generalizing earlier with
  | done => exact fun _ hpair => nomatch hpair
  | @next assembly kind decl rest found middle after hstep _ ih =>
    have hmiddle := Frontier.of_considers hstep hfrontier
    cases hignored : decl.isAmong ignores with
    | true =>
      rw [List.filter_cons_of_neg (by simp [hignored])]
      exact ih (hclaims.skip hstep hignored) hmiddle
    | false =>
      rw [List.filter_cons_of_pos (by simp [hignored])]
      intro pair hpair defect
      rcases List.mem_cons.1 hpair with rfl | hpair
      · exact not_faulty_of_considers hstep hignored hclaims hfrontier
      · exact ih (hclaims.step hstep hignored) hmiddle pair hpair defect

/-- A run that fails has come to the first method at fault, and tells its assembly and its name. -/
theorem firstFault_of_considerMethods (horderly : Orderly registry resolver)
    (htexts : ∀ entry ∈ entries, entry.2.2.Textual) (hclaims : ClaimedBy resolver earlier found)
    (hfrontier : Frontier registry resolver [] found)
    (hfails : (considerMethods registry ignores entries found).1 = .error e) :
    ∃ assembly kind decl defect fullName,
      FirstFault registry resolver earlier
        (entries.filter fun (_, _, decl) => !decl.isAmong ignores) (assembly, kind, decl) defect ∧
      decl.fullName? = some fullName ∧ e = .rejected [assembly.display, fullName] defect := by
  induction entries generalizing earlier found with
  | nil => cases hfails
  | cons entry rest ih =>
    obtain ⟨assembly, kind, decl⟩ := entry
    obtain ⟨hdecl, hrest⟩ := List.forall_mem_cons.1 htexts
    rw [considerMethods_cons] at hfails
    cases hstep : (considerMethod registry ignores assembly kind decl found).1 with
    | error failure =>
      rw [Discover.andThen_of_error hstep] at hfails
      cases hfails
      obtain ⟨hkept, defect, fullName, hname, rfl, hfaulty⟩ :=
        faulty_of_considerMethod horderly hdecl hclaims hstep
      rw [List.filter_cons_of_pos (by simp [hkept])]
      exact ⟨assembly, kind, decl, defect, fullName, .here hfaulty, hname, rfl⟩
    | ok =>
      rw [Discover.andThen_of_ok hstep] at hfails
      -- A step with success is one of a run that could have come to its end, so it meets no fault.
      have hconsiders := considers_of_considerMethod (Prod.ext hstep rfl)
      have hmiddle := Frontier.of_considers hconsiders hfrontier
      cases hignored : decl.isAmong ignores with
      | true =>
        rw [List.filter_cons_of_neg (by simp [hignored])]
        exact ih hrest (hclaims.skip hconsiders hignored) hmiddle hfails
      | false =>
        rw [List.filter_cons_of_pos (by simp [hignored])]
        obtain ⟨assembly', kind', decl', defect, fullName, hfirst, hrest⟩ :=
          ih hrest (hclaims.step hconsiders hignored) hmiddle hfails
        exact ⟨assembly', kind', decl', defect, fullName, .later
          (fun _ => not_faulty_of_considers hconsiders hignored hclaims hfrontier) hfirst, hrest⟩

end Runs

/-! ### Inspections -/

section Inspections

variable {inspector : Inspector} {modules : List Descriptor}

theorem orderly_ofModules (hreachable : inspector.resolver.Reachable)
    (hgroups : ∀ rule ∈ inspector.resolver.rules, rule.NamesGroups)
    (htexts : ∀ module ∈ modules, module.Textual) :
    Orderly (Registry.ofModules modules) inspector.resolver where
  refusals _ _ hanswer := hreachable.error_of_answer hgroups hanswer
  types key decl hfind := by
    rw [Registry.find?_ofModules] at hfind
    obtain ⟨module, hmodule, hdecl⟩ := List.mem_flatMap.1 (List.mem_of_find?_eq_some hfind)
    exact (htexts module hmodule).types decl hdecl

theorem textual_of_mem_interopMethods (htexts : ∀ module ∈ modules, module.Textual) :
    ∀ entry ∈ interopMethods modules, entry.2.2.Textual := by
  intro entry hentry
  obtain ⟨module, hmodule, hentry⟩ := List.mem_flatMap.1 hentry
  obtain ⟨⟨kind, decl⟩, hmethod, rfl⟩ := List.mem_map.1 hentry
  obtain ⟨decl', hdecl, hkind⟩ := List.mem_filterMap.1 hmethod
  obtain ⟨kind', -, hsame⟩ := Option.map_eq_some_iff.1 hkind
  cases hsame
  exact (htexts module hmodule).methods decl hdecl

/-- An inspection that fails has come to the first method at fault. -/
theorem firstFault_of_inspect (hreachable : inspector.resolver.Reachable)
    (hgroups : ∀ rule ∈ inspector.resolver.rules, rule.NamesGroups)
    (htexts : ∀ module ∈ modules, module.Textual)
    (hfails : (inspector.inspect modules).result = .error e) :
    ∃ assembly kind decl defect fullName,
      FirstFault (Registry.ofModules modules) inspector.resolver []
        (keptMethods inspector.ignores modules) (assembly, kind, decl) defect ∧
      decl.fullName? = some fullName ∧ e = .rejected [assembly.display, fullName] defect := by
  obtain ⟨warnings, log, hdeclared⟩ := snd_declareModules modules {} { resolver := inspector.resolver }
  rw [Inspector.inspect_eq, Inspector.declared, hdeclared] at hfails
  have hrun := Outcome.map_eq_error_iff.1 hfails
  exact firstFault_of_considerMethods (orderly_ofModules hreachable hgroups htexts)
    (textual_of_mem_interopMethods htexts)
    (ClaimedBy.start { resolver := inspector.resolver, warnings, log } rfl)
    (Frontier.start { resolver := inspector.resolver, warnings, log } rfl rfl) hrun

/-- Nothing is at fault where an inspection comes to its end. -/
theorem not_faulty_of_inspect {surface : Surface}
    (hinspect : (inspector.inspect modules).result = .ok surface) :
    ∀ pair ∈ withEarlier [] (keptMethods inspector.ignores modules),
      ∀ defect, ¬ Faulty (Registry.ofModules modules) inspector.resolver pair.1 pair.2 defect := by
  obtain ⟨warnings, log, after, htakes, -⟩ := takes_of_inspect hinspect
  exact not_faulty_of_takes htakes
    (ClaimedBy.start { resolver := inspector.resolver, warnings, log } rfl)
    (Frontier.start { resolver := inspector.resolver, warnings, log } rfl rfl)

end Inspections

/-- An inspection fails if and only if a method that is not left out is at fault, after those before it.
The error is a defect of the first such method, under the name of its assembly and its full name. -/
theorem inspect_fails_iff_faulty {inspector : Inspector} {modules : List Descriptor}
    (hreachable : inspector.resolver.Reachable)
    (hgroups : ∀ rule ∈ inspector.resolver.rules, rule.NamesGroups)
    (htexts : ∀ module ∈ modules, module.Textual) :
    ((∃ e, (inspector.inspect modules).result = .error e) ↔
        ∃ pair ∈ withEarlier [] (keptMethods inspector.ignores modules), ∃ defect,
          Faulty (Registry.ofModules modules) inspector.resolver pair.1 pair.2 defect) ∧
      ∀ e, (inspector.inspect modules).result = .error e →
        ∃ assembly kind decl defect fullName,
          FirstFault (Registry.ofModules modules) inspector.resolver []
            (keptMethods inspector.ignores modules) (assembly, kind, decl) defect ∧
          decl.fullName? = some fullName ∧ e = .rejected [assembly.display, fullName] defect := by
  refine ⟨⟨?_, ?_⟩, fun e => firstFault_of_inspect hreachable hgroups htexts⟩
  · rintro ⟨e, hfails⟩
    obtain ⟨_, _, _, _, _, hfirst, -, -⟩ := firstFault_of_inspect hreachable hgroups htexts hfails
    exact exists_of_firstFault hfirst
  · rintro ⟨pair, hpair, defect, hfaulty⟩
    cases hresult : (inspector.inspect modules).result with
    | error e => exact ⟨e, rfl⟩
    | ok surface => exact absurd hfaulty (not_faulty_of_inspect hresult pair hpair defect)

/-! ### A cage in a pen -/

/-- A namespace other than `z` is to be replaced by a group that its pattern does not have. -/
def zooRules : List NamespaceRule :=
  [{ pattern := .text "(z)", replacement := .text "$1oo" },
   { pattern := .text ".", replacement := .text "$1" }]

def zooInspector : Inspector where
  resolver :=
    { rules :=
        [{ source := "(z)"
           pattern :=
             { pattern := .group 1 (.charIn { negated := false, items := [.single 'z'.toNat] }
                 { ignoreCase := false, ascii := false })
               groupCount := 1
               names := [] }
           replacement := .text "$1oo" },
         { source := "."
           pattern := { pattern := .anyChar false, groupCount := 0, names := [] }
           replacement := .text "$1" }] }
  ignores := ["z.Hide"]

def zooTypeDecl (space name : String) (members : List MemberDecl) (bases : List Value) : TypeDecl where
  kind := .object
  space := .text space
  name := .text name
  parameters := []
  members
  items := []
  bases
  isValueType := false

/-- The type of the count is never read, as no instance holds it. -/
def cageDecl : TypeDecl :=
  zooTypeDecl "z" "Cage"
    [{ name := .text "Count", type := .text "int<", isStatic := true, isComputed := false }]
    [.text "pen.Place"]

def placeDecl : TypeDecl := zooTypeDecl "pen" "Place" [] []

/-- No method leads to a keeper. -/
def keeperDecl : TypeDecl := zooTypeDecl "z" "Keeper" [] [.text "Place<"]

def zooMethodDecl (name returns : String) : MethodDecl where
  kind := "invokable"
  space := .text "z"
  owner := .null
  name := .text name
  parameters := []
  returns := .text returns

/-- Of two methods with a malformed result, one is left out and one comes after the cages are visited. -/
def zooModule : Descriptor where
  assembly := .text "Zoo"
  types := [cageDecl, placeDecl, keeperDecl]
  methods := [zooMethodDecl "Hide" "Cage<", zooMethodDecl "Visit" "Cage[]", zooMethodDecl "Leave" "Cage<"]

def zooRegistry : Registry where
  decls := [cageDecl, placeDecl, keeperDecl]

def cageType : DeclaredType where
  identity := cageDecl.identity
  scriptSpace := "zoo"
  isValueType := false
  shape := .object [] [] [.custom placeDecl.identity]

def zooDefect : Defect := .invalidReplacement "$1" "."

theorem ofRules_zooRules : Resolver.ofRules zooRules = .ok zooInspector.resolver := by
  decide +kernel

theorem answer_z : zooInspector.resolver.answer "z" = .ok "zoo" := by
  decide +kernel

theorem answer_pen : zooInspector.resolver.answer "pen" = .error (.rejected [] zooDefect) := by
  decide +kernel

/-- No rule names a group between braces. -/
theorem namesGroups_zooInspector : ∀ rule ∈ zooInspector.resolver.rules, rule.NamesGroups := by
  have hplain : ∀ rule ∈ zooInspector.resolver.rules, ∃ replacement,
      rule.replacement = .text replacement ∧ '\x7b' ∉ replacement.toList := by
    simp [zooInspector]
  intro rule hrule
  obtain ⟨replacement, htext, hnone⟩ := hplain rule hrule
  refine ⟨replacement, htext, fun name _ hwithin => absurd (hwithin.subset ?_) hnone⟩
  simp [braced]

theorem textual_zooMethodDecl (name returns : String) : (zooMethodDecl name returns).Textual where
  space := rfl
  owner htruthy := nomatch htruthy
  name := rfl
  parameters := by simp [zooMethodDecl]
  returns := rfl

theorem textual_zooModule : zooModule.Textual where
  methods := by simp [zooModule, textual_zooMethodDecl]
  types := by
    have hcage : cageDecl.Textual := ⟨rfl, by decide, by decide⟩
    have hplace : placeDecl.Textual := ⟨rfl, by decide, by decide⟩
    have hkeeper : keeperDecl.Textual := ⟨rfl, by decide, by decide⟩
    simp [zooModule, hcage, hplace, hkeeper]

theorem describe_cageDecl : describe zooRegistry cageDecl.identity cageDecl "zoo" = .ok cageType := by
  cbv

theorem resolveValue_cages :
    zooRegistry.resolveValue (.text "Cage[]") "z" [] = .ok (.array (.custom cageDecl.identity) "") := by
  cbv

theorem discover_cage {found : Discovery} (htypes : found.types = [])
    (hanswers : ∀ space, found.resolver.answer space = zooInspector.resolver.answer space) :
    (discover zooRegistry [cageDecl.identity] found).1 = .error (.rejected [] zooDefect) := by
  have hcage : found.knows cageDecl.identity.key = false := by
    rw [Discovery.knows, htypes, List.any_nil]
  have hspace : resolveSpace cageDecl.space found = (.ok "zoo", found.asked "z") :=
    resolveSpace_eq_ok_iff.2 ⟨"z", rfl, (hanswers "z").trans answer_z, rfl⟩
  have hplace : ((found.asked "z").addType cageType).knows placeDecl.identity.key = false := by
    rw [Discovery.knows, Discovery.types_addType, Discovery.types_asked, htypes]
    decide
  have hpen : (resolveSpace placeDecl.space ((found.asked "z").addType cageType)).1 =
      .error (.rejected [] zooDefect) := by
    have hanswer : ((found.asked "z").addType cageType).resolver.answer "pen" =
        zooInspector.resolver.answer "pen" := by
      rw [Discovery.resolver_addType]
      exact (found.resolver.answer_asked "z" "pen").trans (hanswers "pen")
    exact hanswer.trans answer_pen
  rw [discover_cons_of_fresh _ hcage rfl, Discover.andThen_of_ok (congrArg Prod.fst hspace),
    Discover.andThen_of_ok describe_cageDecl, Discover.lift, hspace]
  have hreferences : cageType.references ++ [] = [placeDecl.identity] := rfl
  rw [hreferences, discover_cons_of_fresh _ hplace rfl, Discover.andThen_of_error hpen]

theorem fails_consider_visit {found : Discovery} (htypes : found.types = [])
    (hclaimed : found.claimed = [])
    (hanswers : ∀ space, found.resolver.answer space = zooInspector.resolver.answer space) :
    (considerMethod zooRegistry zooInspector.ignores (.text "Zoo") .invokable
      (zooMethodDecl "Visit" "Cage[]") found).1 = .error (.rejected ["Zoo", "z.Visit"] zooDefect) := by
  have hspace : resolveSpace (zooMethodDecl "Visit" "Cage[]").space found =
      (.ok "zoo", found.asked "z") :=
    resolveSpace_eq_ok_iff.2 ⟨"z", rfl, (hanswers "z").trans answer_z, rfl⟩
  have hfree : (found.asked "z").claimed.contains
      ("zoo", MethodKind.invokable.isExport, Naming.lowerFirst "Visit") = false := by
    rw [Discovery.claimed_asked, hclaimed, List.contains_nil]
  have hsignature : signatureOf zooRegistry (zooMethodDecl "Visit" "Cage[]") =
      .ok ([], .array (.custom cageDecl.identity) "") :=
    Outcome.bind_eq_ok_iff.2 ⟨[], rfl, Outcome.bind_eq_ok_iff.2 ⟨_, resolveValue_cages, rfl⟩⟩
  rw [considerMethod_of_kept _ _ _ _ _ "z.Visit" rfl rfl,
    takeMethod_of_free _ _ _ _ _ hspace rfl hfree hsignature]
  refine (congrArg (Except.mapError _) (discover_cage ?_ fun other => ?_)).trans rfl
  · rw [Discovery.types_addMethod]
    exact htypes
  · rw [Discovery.resolver_addMethod]
    exact (found.resolver.answer_asked "z" other).trans (hanswers other)

theorem inspect_zooModule :
    (zooInspector.inspect [zooModule]).result = .error (.rejected ["Zoo", "z.Visit"] zooDefect) := by
  have hrun : (considerMethods zooRegistry zooInspector.ignores (interopMethods [zooModule])
      (zooInspector.declared [zooModule])).1 = .error (.rejected ["Zoo", "z.Visit"] zooDefect) := by
    have hmethods : interopMethods [zooModule] =
        [(.text "Zoo", .invokable, zooMethodDecl "Hide" "Cage<"),
          (.text "Zoo", .invokable, zooMethodDecl "Visit" "Cage[]"),
          (.text "Zoo", .invokable, zooMethodDecl "Leave" "Cage<")] := rfl
    rw [hmethods, considerMethods_cons, Discover.andThen_of_ok rfl, considerMethods_cons,
      Discover.andThen_of_error (fails_consider_visit rfl rfl fun _ => rfl)]
  have hregistry : Registry.ofModules [zooModule] = zooRegistry := rfl
  rw [Inspector.inspect_eq, hregistry]
  exact Outcome.map_eq_error_iff.2 hrun

/-- The visit is the first at fault. The error tells of a namespace that its cages lead to. -/
theorem fails_zooModule :
    zooInspector.resolver.Reachable ∧ (∀ rule ∈ zooInspector.resolver.rules, rule.NamesGroups) ∧
      (∀ module ∈ [zooModule], module.Textual) ∧
      (zooInspector.inspect [zooModule]).result = .error (.rejected ["Zoo", "z.Visit"] zooDefect) ∧
      (∃ pair ∈ withEarlier [] (keptMethods zooInspector.ignores [zooModule]), ∃ defect,
        Faulty (Registry.ofModules [zooModule]) zooInspector.resolver pair.1 pair.2 defect) ∧
      ∃ assembly kind decl,
        FirstFault (Registry.ofModules [zooModule]) zooInspector.resolver []
          (keptMethods zooInspector.ignores [zooModule]) (assembly, kind, decl) zooDefect ∧
        decl.fullName? = some "z.Visit" := by
  have hreachable : zooInspector.resolver.Reachable := .made ofRules_zooRules
  have htexts : ∀ module ∈ [zooModule], module.Textual := by simp [textual_zooModule]
  obtain ⟨hiff, hblames⟩ := inspect_fails_iff_faulty hreachable namesGroups_zooInspector htexts
  obtain ⟨assembly, kind, decl, defect, fullName, hfirst, hname, hsame⟩ := hblames _ inspect_zooModule
  simp only [Error.rejected.injEq, List.cons.injEq] at hsame
  obtain ⟨⟨-, rfl, -⟩, rfl⟩ := hsame
  exact ⟨hreachable, namesGroups_zooInspector, htexts, inspect_zooModule, hiff.1 ⟨_, inspect_zooModule⟩,
    assembly, kind, decl, hfirst, hname⟩

end ScriptBridge
