import Mathlib
import ScriptBridge.Proofs.Descriptor.Keys
import ScriptBridge.Proofs.Surface.Exploration
import ScriptBridge.Proofs.TypeRef.Declared

/-!
# Which methods are taken

Of the interop methods that are not left out, the first of each target is taken, and every other one is
dropped with a warning. The warnings begin with those for the types whose keys earlier modules have
declared.
-/

namespace ScriptBridge

/-! ### Firsts and repeats -/

section Earlier

variable {α κ : Type}

/-- Each element of a list with all that stands before it, which begins with what stands before the
list. -/
def withEarlier (earlier : List α) : List α → List (List α × α)
  | [] => []
  | x :: rest => (earlier, x) :: withEarlier (earlier ++ [x]) rest

variable [DecidableEq κ] (key : α → κ)

/-- The elements of a list whose keys nothing before them has. -/
def firsts (earlier xs : List α) : List α :=
  ((withEarlier earlier xs).filter fun (before, x) => key x ∉ before.map key).map (·.2)

/-- The elements of a list whose keys something before them has. -/
def repeats (earlier xs : List α) : List α :=
  ((withEarlier earlier xs).filter fun (before, x) => key x ∈ before.map key).map (·.2)

variable {key} {earlier xs : List α} {x : α}

theorem firsts_cons_of_mem (hmem : key x ∈ earlier.map key) :
    firsts key earlier (x :: xs) = firsts key (earlier ++ [x]) xs := by
  simp only [firsts, withEarlier, List.filter_cons, hmem, not_true_eq_false, decide_false,
    Bool.false_eq_true, if_false]

theorem firsts_cons_of_not_mem (hmem : key x ∉ earlier.map key) :
    firsts key earlier (x :: xs) = x :: firsts key (earlier ++ [x]) xs := by
  simp only [firsts, withEarlier, List.filter_cons, hmem, not_false_eq_true, decide_true, if_true,
    List.map_cons]

theorem repeats_cons_of_mem (hmem : key x ∈ earlier.map key) :
    repeats key earlier (x :: xs) = x :: repeats key (earlier ++ [x]) xs := by
  simp only [repeats, withEarlier, List.filter_cons, hmem, decide_true, if_true, List.map_cons]

theorem repeats_cons_of_not_mem (hmem : key x ∉ earlier.map key) :
    repeats key earlier (x :: xs) = repeats key (earlier ++ [x]) xs := by
  simp only [repeats, withEarlier, List.filter_cons, hmem, decide_false, Bool.false_eq_true,
    if_false]

theorem not_mem_of_mem_firsts (hmem : x ∈ firsts key earlier xs) : key x ∉ earlier.map key := by
  induction xs generalizing earlier with
  | nil => cases hmem
  | cons first xs ih =>
    by_cases hfirst : key first ∈ earlier.map key
    · rw [firsts_cons_of_mem hfirst] at hmem
      exact fun hkey => ih hmem (by simp only [List.map_append, List.mem_append, hkey, true_or])
    · rw [firsts_cons_of_not_mem hfirst] at hmem
      rcases List.mem_cons.1 hmem with rfl | hmem
      · exact hfirst
      · exact fun hkey => ih hmem (by simp only [List.map_append, List.mem_append, hkey, true_or])

/-- Firsts have distinct keys. -/
theorem nodup_map_firsts (earlier xs : List α) : ((firsts key earlier xs).map key).Nodup := by
  induction xs generalizing earlier with
  | nil => exact List.nodup_nil
  | cons first xs ih =>
    by_cases hfirst : key first ∈ earlier.map key
    · rw [firsts_cons_of_mem hfirst]
      exact ih _
    · rw [firsts_cons_of_not_mem hfirst, List.map_cons, List.nodup_cons]
      refine ⟨?_, ih _⟩
      intro hkey
      obtain ⟨other, hother, hsame⟩ := List.mem_map.1 hkey
      exact not_mem_of_mem_firsts hother (by simp [hsame])

end Earlier

/-! ### Targets -/

/-- Whether the full name of a method, or its own name, is among some names. -/
def MethodDecl.isAmong (names : List String) (decl : MethodDecl) : Bool :=
  decl.fullName?.any names.contains || decl.name.asText?.any names.contains

/-- What a method is called in script: its namespace, its side and its name there. -/
def targetOf (resolver : Namespace.Resolver) :
    Value × MethodKind × MethodDecl → Option (String × Bool × String)
  | (_, kind, decl) => do
    let space ← decl.space.asText?
    let name ← decl.name.asText?
    let scriptSpace ← (resolver.answer space).toOption
    return (scriptSpace, kind.isExport, Naming.lowerFirst name)

/-- The method that a declaration gives: its references are resolved in its namespace. -/
def TakenFrom (registry : Registry) (resolver : Namespace.Resolver) :
    Value × MethodKind × MethodDecl → Method → Prop
  | (assembly, kind, decl), method => ∃ space scriptSpace name arguments returns,
    decl.space = .text space ∧ resolver.answer space = .ok scriptSpace ∧ decl.name = .text name ∧
    argumentsOf registry space decl.parameters = .ok arguments ∧
    registry.resolveValue decl.returns space [] = .ok returns ∧
    method =
      { kind, assembly, owner := decl.owner, space, scriptSpace, name,
        scriptName := Naming.lowerFirst name, arguments, returns }

/-- The warning that a method is dropped with names its module, the method and its target. -/
def DroppedWith (resolver : Namespace.Resolver) :
    Value × MethodKind × MethodDecl → String → Prop
  | (assembly, kind, decl), warning => ∃ fullName scriptSpace side scriptName,
    decl.fullName? = some fullName ∧
    targetOf resolver (assembly, kind, decl) = some (scriptSpace, side, scriptName) ∧
    warning = assembly.display ++ ": " ++ fullName ++ " duplicates " ++ scriptSpace ++ "." ++
      scriptName ++ ", ignoring"

def Method.target (method : Method) : String × Bool × String :=
  (method.scriptSpace, method.kind.isExport, method.scriptName)

section Targets

variable {registry : Registry} {resolver : Namespace.Resolver} {ignores : List String}
  {decl : MethodDecl}

theorem isAmong_eq_of_isIgnored {fullName : String} {ignored : Bool}
    (hname : decl.fullName? = some fullName)
    (hignored : isIgnored ignores fullName decl.name = .ok ignored) :
    decl.isAmong ignores = ignored := by
  unfold isIgnored at hignored
  rw [MethodDecl.isAmong, hname, Option.any_some]
  split at hignored
  · rename_i hfull
    cases hignored
    rw [hfull, Bool.true_or]
  · rename_i hfull
    rw [Bool.eq_false_iff.2 hfull, Bool.false_or]
    split at hignored
    · rename_i name hdecl
      rw [hdecl]
      exact Except.ok.inj hignored
    · rename_i other htext
      split at hignored
      · cases hignored
        cases hdecl : decl.name with
        | text name => exact absurd hdecl (htext name)
        | _ => rfl
      · cases hignored

theorem targetOf_eq_some (assembly : Value) (kind : MethodKind) {space name scriptSpace : String}
    (hspace : decl.space = .text space) (hanswer : resolver.answer space = .ok scriptSpace)
    (hname : decl.name = .text name) :
    targetOf resolver (assembly, kind, decl) =
      some (scriptSpace, kind.isExport, Naming.lowerFirst name) := by
  simp only [targetOf, hspace, hname, hanswer, Value.asText?, Except.toOption, bind, Option.bind,
    pure]

theorem target_of_takenFrom {entry : Value × MethodKind × MethodDecl} {method : Method}
    (htaken : TakenFrom registry resolver entry method) :
    targetOf resolver entry = some method.target := by
  obtain ⟨assembly, kind, decl⟩ := entry
  obtain ⟨space, scriptSpace, name, _, _, hspace, hanswer, hname, -, -, rfl⟩ := htaken
  exact targetOf_eq_some assembly kind hspace hanswer hname

end Targets

/-! ### Steps and runs -/

section Runs

variable {registry : Registry} {resolver : Namespace.Resolver} {ignores : List String}
  {earlier entries : List (Value × MethodKind × MethodDecl)}
  {entry : Value × MethodKind × MethodDecl} {found after : Discovery}

/-- Exploring types finds types and their namespaces only. -/
theorem Explores.frame {pending : List TypeIdentity} (hrun : Explores registry pending found after) :
    after.methods = found.methods ∧ after.warnings = found.warnings ∧
      after.claimed = found.claimed ∧
      ∀ space, after.resolver.answer space = found.resolver.answer space := by
  induction hrun with
  | done => exact ⟨rfl, rfl, rfl, fun _ => rfl⟩
  | known _ _ ih => exact ih
  | undeclared _ _ ih => exact ih
  | @described _ _ found _ _ space type _ _ _ _ _ _ ih =>
    obtain ⟨hmethods, hwarnings, hclaimed, hanswers⟩ := ih
    refine ⟨?_, ?_, ?_, ?_⟩
    · simpa using hmethods
    · simpa using hwarnings
    · simpa using hclaimed
    · intro other
      rw [hanswers, Discovery.resolver_addType]
      exact found.resolver.answer_asked space other

/-- The targets that are claimed are those of the methods considered earlier. -/
structure ClaimedBy (resolver : Namespace.Resolver)
    (earlier : List (Value × MethodKind × MethodDecl)) (found : Discovery) : Prop where
  answers : ∀ space, found.resolver.answer space = resolver.answer space
  claimed : ∀ target, target ∈ found.claimed ↔ some target ∈ earlier.map (targetOf resolver)

theorem ClaimedBy.start (found : Discovery) (hclaimed : found.claimed = []) :
    ClaimedBy found.resolver [] found where
  answers _ := rfl
  claimed target := by simp [hclaimed]

theorem ClaimedBy.congr {other : Discovery} (hclaims : ClaimedBy resolver earlier found)
    (hclaimed : other.claimed = found.claimed)
    (hanswers : ∀ space, other.resolver.answer space = found.resolver.answer space) :
    ClaimedBy resolver earlier other where
  answers space := (hanswers space).trans (hclaims.answers space)
  claimed := hclaimed ▸ hclaims.claimed

/-- A method whose target is claimed claims nothing more. -/
theorem ClaimedBy.concat_of_mem {target : String × Bool × String}
    (hclaims : ClaimedBy resolver earlier found) (htarget : targetOf resolver entry = some target)
    (hmem : target ∈ found.claimed) : ClaimedBy resolver (earlier ++ [entry]) found where
  answers := hclaims.answers
  claimed other := by
    rw [List.map_append, List.mem_append, ← hclaims.claimed, List.map_singleton,
      List.mem_singleton, htarget, Option.some_inj]
    refine ⟨.inl, ?_⟩
    rintro (hother | rfl)
    · exact hother
    · exact hmem

theorem ClaimedBy.concat_claim {target : String × Bool × String}
    (hclaims : ClaimedBy resolver earlier found) (htarget : targetOf resolver entry = some target) :
    ClaimedBy resolver (earlier ++ [entry]) (found.claim target) where
  answers := hclaims.answers
  claimed other := by
    have hcons : other ∈ (found.claim target).claimed ↔ other = target ∨ other ∈ found.claimed :=
      List.mem_cons
    rw [hcons, List.map_append, List.mem_append, ← hclaims.claimed, List.map_singleton,
      List.mem_singleton, htarget, Option.some_inj, or_comm]

/-- A method that is left out claims nothing. -/
theorem ClaimedBy.skip {assembly : Value} {kind : MethodKind} {decl : MethodDecl}
    (hrun : Considers registry ignores assembly kind decl found after)
    (hignored : decl.isAmong ignores = true) (hclaims : ClaimedBy resolver earlier found) :
    ClaimedBy resolver earlier after := by
  cases hrun with
  | ignored => exact hclaims.congr rfl fun _ => rfl
  | duplicate hname hkept =>
    rw [isAmong_eq_of_isIgnored hname hkept] at hignored
    cases hignored
  | taken hname hkept =>
    rw [isAmong_eq_of_isIgnored hname hkept] at hignored
    cases hignored

/-- Any other method claims its target, if the target is free. -/
theorem ClaimedBy.step {assembly : Value} {kind : MethodKind} {decl : MethodDecl}
    (hrun : Considers registry ignores assembly kind decl found after)
    (hkept : decl.isAmong ignores = false) (hclaims : ClaimedBy resolver earlier found) :
    ClaimedBy resolver (earlier ++ [(assembly, kind, decl)]) after := by
  cases hrun with
  | ignored hname hignored =>
    rw [isAmong_eq_of_isIgnored hname hignored] at hkept
    cases hkept
  | @duplicate _ space _ _ _ _ _ hspace hanswer htext hclaimed =>
    have htarget := targetOf_eq_some assembly kind hspace
      ((hclaims.answers space).symm.trans hanswer) htext
    exact (hclaims.concat_of_mem htarget (List.contains_iff_mem.1 hclaimed)).congr rfl
      (found.resolver.answer_asked space)
  | @taken _ space _ _ _ _ _ _ _ _ _ hspace hanswer htext _ _ _ _ hexplores =>
    have htarget := targetOf_eq_some assembly kind hspace
      ((hclaims.answers space).symm.trans hanswer) htext
    obtain ⟨-, -, hclaimed, hanswers⟩ := hexplores.frame
    refine (hclaims.concat_claim htarget).congr
      (hclaimed.trans (Discovery.claimed_addMethod _ _)) fun other => ?_
    rw [hanswers, Discovery.resolver_addMethod]
    exact found.resolver.answer_asked space other

/-- What a run over some methods adds: the firsts of each target, and warnings for the repeats. -/
structure Selects (registry : Registry) (resolver : Namespace.Resolver)
    (earlier entries : List (Value × MethodKind × MethodDecl)) (found after : Discovery) : Prop where
  methods : ∃ taken, after.methods = found.methods ++ taken ∧
    List.Forall₂ (TakenFrom registry resolver) (firsts (targetOf resolver) earlier entries) taken
  warnings : ∃ texts, after.warnings = found.warnings ++ texts ∧
    List.Forall₂ (DroppedWith resolver) (repeats (targetOf resolver) earlier entries) texts
  targets : ∀ entry ∈ entries, (targetOf resolver entry).isSome = true

namespace Selects

theorem done : Selects registry resolver earlier [] found found where
  methods := ⟨[], (List.append_nil _).symm, .nil⟩
  warnings := ⟨[], (List.append_nil _).symm, .nil⟩
  targets _ hmem := nomatch hmem

theorem skip {middle : Discovery} (hrest : Selects registry resolver earlier entries middle after)
    (hmethods : middle.methods = found.methods) (hwarnings : middle.warnings = found.warnings) :
    Selects registry resolver earlier entries found after where
  methods := hmethods ▸ hrest.methods
  warnings := hwarnings ▸ hrest.warnings
  targets := hrest.targets

theorem drop {middle : Discovery} {warning : String}
    (hrest : Selects registry resolver (earlier ++ [entry]) entries middle after)
    (hmem : targetOf resolver entry ∈ earlier.map (targetOf resolver))
    (hdropped : DroppedWith resolver entry warning) (hmethods : middle.methods = found.methods)
    (hwarnings : middle.warnings = found.warnings ++ [warning]) :
    Selects registry resolver earlier (entry :: entries) found after where
  methods := by
    rw [firsts_cons_of_mem hmem, ← hmethods]
    exact hrest.methods
  warnings := by
    obtain ⟨texts, htexts, hall⟩ := hrest.warnings
    refine ⟨warning :: texts, ?_, ?_⟩
    · rw [htexts, hwarnings, List.append_assoc, List.singleton_append]
    · rw [repeats_cons_of_mem hmem]
      exact .cons hdropped hall
  targets := by
    obtain ⟨_, _, _, _, -, htarget, -⟩ := hdropped
    exact List.forall_mem_cons.2 ⟨by rw [htarget]; rfl, hrest.targets⟩

theorem take {middle : Discovery} {method : Method}
    (hrest : Selects registry resolver (earlier ++ [entry]) entries middle after)
    (hmem : targetOf resolver entry ∉ earlier.map (targetOf resolver))
    (htaken : TakenFrom registry resolver entry method)
    (hmethods : middle.methods = found.methods ++ [method])
    (hwarnings : middle.warnings = found.warnings) :
    Selects registry resolver earlier (entry :: entries) found after where
  methods := by
    obtain ⟨taken, htakes, hall⟩ := hrest.methods
    refine ⟨method :: taken, ?_, ?_⟩
    · rw [htakes, hmethods, List.append_assoc, List.singleton_append]
    · rw [firsts_cons_of_not_mem hmem]
      exact .cons htaken hall
  warnings := by
    rw [repeats_cons_of_not_mem hmem, ← hwarnings]
    exact hrest.warnings
  targets := List.forall_mem_cons.2 ⟨by rw [target_of_takenFrom htaken]; rfl, hrest.targets⟩

theorem of_takes (hrun : Takes registry ignores entries found after)
    (hclaims : ClaimedBy resolver earlier found) :
    Selects registry resolver earlier
      (entries.filter fun (_, _, decl) => !decl.isAmong ignores) found after := by
  induction hrun generalizing earlier with
  | done => exact done
  | @next assembly kind decl rest found middle after hstep _ ih =>
    have hskip := fun hignored => ih (hclaims.skip hstep hignored)
    have hnext := fun hkept => ih (hclaims.step hstep hkept)
    cases hstep with
    | ignored hname hignored =>
      have hignored := isAmong_eq_of_isIgnored hname hignored
      rw [List.filter_cons_of_neg (by simp [hignored])]
      exact (hskip hignored).skip rfl rfl
    | @duplicate fullName space scriptSpace name _ hname hkept hspace hanswer htext hclaimed =>
      have hkept := isAmong_eq_of_isIgnored hname hkept
      rw [List.filter_cons_of_pos (by simp [hkept])]
      have htarget := targetOf_eq_some assembly kind hspace
        ((hclaims.answers space).symm.trans hanswer) htext
      refine (hnext hkept).drop ?_ ⟨fullName, _, _, _, hname, htarget, rfl⟩ rfl rfl
      rw [htarget]
      exact (hclaims.claimed _).1 (List.contains_iff_mem.1 hclaimed)
    | @taken fullName space scriptSpace name arguments returns method _ _ hname hkept hspace hanswer
        htext hfree harguments hreturns hmethod hexplores =>
      have hkept := isAmong_eq_of_isIgnored hname hkept
      rw [List.filter_cons_of_pos (by simp [hkept])]
      have hresolve := (hclaims.answers space).symm.trans hanswer
      have htarget := targetOf_eq_some assembly kind hspace hresolve htext
      obtain ⟨hmethods, hwarnings, -, -⟩ := hexplores.frame
      refine (hnext hkept).take ?_ ⟨space, scriptSpace, name, arguments, returns, hspace, hresolve,
        htext, harguments, hreturns, hmethod⟩ (hmethods.trans (Discovery.methods_addMethod _ _))
        (hwarnings.trans (Discovery.warnings_addMethod _ _))
      rw [htarget, ← hclaims.claimed]
      simpa using hfree

end Selects

end Runs

/-! ### Types declared before -/

/-- Whether a module has a type of a key. -/
def Descriptor.declares (module : Descriptor) (key : Value) : Bool :=
  module.types.any (·.key.isSameKey key)

/-- The warnings for the types of some modules whose keys earlier modules have declared. -/
def redeclared (earlier modules : List Descriptor) : List String :=
  (withEarlier earlier modules).flatMap fun (before, module) =>
    (module.types.filter fun decl => before.any (·.declares decl.key)).map fun decl =>
      module.assembly.display ++ ": type " ++ decl.key.display ++ " is already declared, ignoring"

namespace Registry

theorem declares_add (registry : Registry) (decl : TypeDecl) (key : Value) :
    (registry.add decl).declares key = (registry.declares key || decl.key.isSameKey key) := by
  simp only [declares, add, List.any_append, List.any_cons, List.any_nil, Bool.or_false]

theorem declares_declare (registry : Registry) (decl : TypeDecl) (key : Value) :
    (registry.declare decl).declares key = (registry.declares key || decl.key.isSameKey key) := by
  unfold declare
  split
  · rename_i hdeclares
    cases hsame : decl.key.isSameKey key with
    | false => rw [Bool.or_false]
    | true =>
      obtain ⟨first, hfirst, hkey⟩ := List.any_eq_true.1 hdeclares
      rw [Bool.or_true]
      refine List.any_eq_true.2 ⟨first, hfirst, ?_⟩
      rw [Value.isSameKey_iff] at hkey hsame ⊢
      exact hkey.trans hsame
  · exact declares_add registry decl key

theorem declares_foldl_declare (decls : List TypeDecl) (registry : Registry) (key : Value) :
    (decls.foldl declare registry).declares key =
      (registry.declares key || decls.any (·.key.isSameKey key)) := by
  induction decls generalizing registry with
  | nil => exact (Bool.or_false _).symm
  | cons decl decls ih =>
    rw [List.foldl_cons, ih, declares_declare, List.any_cons, Bool.or_assoc]

end Registry

/-- The types of one module do not get into each other's way. -/
theorem warnings_declareTypes (assembly : Value) {decls : List TypeDecl}
    (hdistinct : TypeDecl.KeysDistinct decls) (registry : Registry) (found : Discovery) :
    (declareTypes assembly decls (registry, found)).2.warnings = found.warnings ++
      (decls.filter fun decl => registry.declares decl.key).map fun decl =>
        assembly.display ++ ": type " ++ decl.key.display ++ " is already declared, ignoring" := by
  induction decls generalizing registry found with
  | nil => exact (List.append_nil _).symm
  | cons decl decls ih =>
    obtain ⟨hfirst, hrest⟩ := List.pairwise_cons.1 hdistinct
    rw [declareTypes]
    split
    · rename_i hdeclares
      rw [ih hrest, List.filter_cons, if_pos hdeclares, List.map_cons]
      exact List.append_assoc _ [_] _
    · rename_i hfree
      rw [ih hrest, List.filter_cons, if_neg hfree]
      congr 2
      refine List.filter_congr fun other hother => ?_
      rw [Registry.declares_add, hfirst other hother, Bool.or_false]

theorem warnings_declareModules {modules : List Descriptor}
    (hkeys : ∀ module ∈ modules, TypeDecl.KeysDistinct module.types) {earlier : List Descriptor}
    {registry : Registry} {found : Discovery}
    (hregistry : ∀ key, registry.declares key = earlier.any (·.declares key)) :
    (declareModules modules (registry, found)).2.warnings =
      found.warnings ++ redeclared earlier modules := by
  unfold declareModules
  induction modules generalizing earlier registry found with
  | nil => exact (List.append_nil _).symm
  | cons module modules ih =>
    obtain ⟨hmodule, hmodules⟩ := List.forall_mem_cons.1 hkeys
    rw [List.foldl_cons]
    refine (@ih hmodules (earlier ++ [module]) _ _ ?_).trans ?_
    · intro key
      rw [fst_declareTypes, Registry.declares_foldl_declare, hregistry, List.any_append,
        List.any_cons, List.any_nil, Bool.or_false]
      rfl
    · rw [warnings_declareTypes module.assembly hmodule, List.append_assoc]
      simp only [hregistry, redeclared, withEarlier, List.flatMap_cons]

/-! ### Selections -/

/-- The interop methods of some modules that are not left out by their full or their own names. -/
def keptMethods (ignores : List String) (modules : List Descriptor) :
    List (Value × MethodKind × MethodDecl) :=
  (interopMethods modules).filter fun (_, _, decl) => !decl.isAmong ignores

section Inspected

variable {inspector : Inspector} {modules : List Descriptor} {surface : Surface}

theorem taken_of_inspect (hinspect : (inspector.inspect modules).result = .ok surface) :
    List.Forall₂ (TakenFrom (Registry.ofModules modules) inspector.resolver)
      (firsts (targetOf inspector.resolver) [] (keptMethods inspector.ignores modules))
      surface.methods := by
  obtain ⟨warnings, log, after, htakes, rfl⟩ := takes_of_inspect hinspect
  obtain ⟨⟨taken, hmethods, htaken⟩, -, -⟩ := Selects.of_takes htakes (ClaimedBy.start _ rfl)
  have hmethods : after.methods = taken := hmethods
  rw [← hmethods] at htaken
  exact htaken

/-- No two methods have one target. -/
theorem nodup_targets_of_inspect (hinspect : (inspector.inspect modules).result = .ok surface) :
    (surface.methods.map Method.target).Nodup := by
  have hsame : (firsts (targetOf inspector.resolver) []
      (keptMethods inspector.ignores modules)).map (targetOf inspector.resolver) =
        (surface.methods.map Method.target).map some := by
    rw [List.map_map, ← List.forall₂_eq_eq_eq, List.forall₂_map_left_iff,
      List.forall₂_map_right_iff]
    exact (taken_of_inspect hinspect).imp fun _ _ => target_of_takenFrom
  have hnodup : (((surface.methods.map Method.target).map some)).Nodup :=
    hsame ▸ nodup_map_firsts [] (keptMethods inspector.ignores modules)
  exact hnodup.of_map

/-- A method stands in a namespace that the resolver answers. -/
theorem exists_answer_of_inspect (hinspect : (inspector.inspect modules).result = .ok surface)
    {method : Method} (hmethod : method ∈ surface.methods) :
    ∃ space, inspector.resolver.answer space = .ok method.scriptSpace := by
  obtain ⟨⟨assembly, kind, decl⟩, -, space, scriptSpace, _, _, _, -, hanswer, -, -, -, rfl⟩ :=
    Outcome.exists_left_of_forall₂ (taken_of_inspect hinspect) hmethod
  exact ⟨space, hanswer⟩

end Inspected

/-- On success each method that is not left out has a target. The first of each target is taken, in
order. The warnings are those for the types declared before and then one for each other method, in
order. -/
theorem selected_of_inspect {inspector : Inspector} {modules : List Descriptor} {surface : Surface}
    (hkeys : ∀ module ∈ modules, TypeDecl.KeysDistinct module.types)
    (hinspect : (inspector.inspect modules).result = .ok surface) :
    (∀ entry ∈ keptMethods inspector.ignores modules,
        (targetOf inspector.resolver entry).isSome = true) ∧
      List.Forall₂ (TakenFrom (Registry.ofModules modules) inspector.resolver)
        (firsts (targetOf inspector.resolver) [] (keptMethods inspector.ignores modules))
        surface.methods ∧
      (∃ drops, surface.warnings = redeclared [] modules ++ drops ∧
        List.Forall₂ (DroppedWith inspector.resolver)
          (repeats (targetOf inspector.resolver) [] (keptMethods inspector.ignores modules)) drops) ∧
      (surface.methods.map Method.target).Nodup := by
  obtain ⟨after, htakes, rfl⟩ := takes_declared_of_inspect hinspect
  have hdeclared := @warnings_declareModules modules hkeys [] {}
    { resolver := inspector.resolver } fun _ => rfl
  obtain ⟨warnings, log, hstart⟩ := snd_declareModules modules {} { resolver := inspector.resolver }
  rw [hstart] at htakes hdeclared
  obtain ⟨⟨taken, hmethods, htaken⟩, ⟨drops, hwarnings, hdrops⟩, htargets⟩ :=
    Selects.of_takes htakes (ClaimedBy.start _ rfl)
  have hmethods : after.methods = taken := hmethods
  rw [← hmethods] at htaken
  refine ⟨htargets, htaken, ⟨drops, hwarnings.trans ?_, hdrops⟩, ?_⟩
  · exact congrArg (· ++ drops) hdeclared
  · have hsame : (firsts (targetOf inspector.resolver) []
        (keptMethods inspector.ignores modules)).map (targetOf inspector.resolver) =
          after.methods.map fun method => some method.target := by
      rw [← List.forall₂_eq_eq_eq, List.forall₂_map_left_iff, List.forall₂_map_right_iff]
      exact htaken.imp fun _ _ => target_of_takenFrom
    have hnodup := hsame ▸ nodup_map_firsts [] (keptMethods inspector.ignores modules)
    refine List.pairwise_map.2 ((List.pairwise_map.1 hnodup).imp ?_)
    exact fun hne htarget => hne (congrArg some htarget)

/-! ### A basket after a cart -/

def shopTypeDecl : TypeDecl where
  kind := .enumeration
  space := .text "shop"
  name := .text "Colour"
  parameters := []
  members := []
  items := []
  bases := []
  isValueType := true

def shopMethodDecl (kind owner name : String) : MethodDecl where
  kind
  space := .text "shop"
  owner := .text owner
  name := .text name
  parameters := []
  returns := .text "void"

/-- Script calls one method, and is called by the other. -/
def cartModule : Descriptor where
  assembly := .text "Cart"
  types := [shopTypeDecl]
  methods := [shopMethodDecl "invokable" "Cart" "Add", shopMethodDecl "function" "Cart" "Add"]

def basketModule : Descriptor where
  assembly := .text "Basket"
  types := [shopTypeDecl]
  methods := [shopMethodDecl "invokable" "Basket" "Clear", shopMethodDecl "invokable" "Basket" "add"]

def shopInspector : Inspector where
  resolver := { rules := [] }
  ignores := ["Clear"]

def shopMethod (kind : MethodKind) : Method where
  kind
  assembly := .text "Cart"
  owner := .text "Cart"
  space := "shop"
  scriptSpace := "shop"
  name := "Add"
  scriptName := "add"
  arguments := []
  returns := .primitive .void "System.Void"

def shopSurface : Surface where
  methods := [shopMethod .invokable, shopMethod .function]
  namespaces := ["shop"]
  warnings :=
    ["Basket: type shop.Colour is already declared, ignoring",
     "Basket: shop.Basket.add duplicates shop.add, ignoring"]

def shopRegistry : Registry where
  decls := [shopTypeDecl]

theorem resolveValue_void :
    shopRegistry.resolveValue (.text "void") "shop" [] = .ok (.primitive .void "System.Void") :=
  Registry.resolveValue_eq_ok_iff.2 ⟨_, .mk "void" [] [], rfl, by cbv, by decide +kernel⟩

theorem inspect_shop :
    (shopInspector.inspect [cartModule, basketModule]).result = .ok shopSurface := by
  have hregistry : (declareModules [cartModule, basketModule]
      ({}, { resolver := shopInspector.resolver })).1 = shopRegistry := rfl
  refine inspect_of_takes (Prod.ext hregistry rfl)
    ⟨_, .next (.taken rfl rfl rfl rfl rfl rfl rfl resolveValue_void rfl .done)
      (.next (.taken rfl rfl rfl rfl rfl rfl rfl resolveValue_void rfl .done)
      (.next (.ignored rfl rfl) (.next (.duplicate rfl rfl rfl rfl rfl rfl) .done))), ?_⟩
  rfl

/-- Of four methods one is left out and one is dropped, and one type is declared before. -/
theorem selected_shopSurface :
    (∀ module ∈ [cartModule, basketModule], TypeDecl.KeysDistinct module.types) ∧
      (shopInspector.inspect [cartModule, basketModule]).result = .ok shopSurface ∧
      (shopSurface.methods.map Method.target).Nodup ∧
      ∃ drops, shopSurface.warnings = redeclared [] [cartModule, basketModule] ++ drops ∧
        List.Forall₂ (DroppedWith shopInspector.resolver)
          (repeats (targetOf shopInspector.resolver) []
            (keptMethods shopInspector.ignores [cartModule, basketModule])) drops := by
  have hkeys : ∀ module ∈ [cartModule, basketModule], TypeDecl.KeysDistinct module.types := by
    simp [TypeDecl.KeysDistinct, cartModule, basketModule]
  obtain ⟨-, -, hwarnings, htargets⟩ := selected_of_inspect hkeys inspect_shop
  exact ⟨hkeys, inspect_shop, htargets, hwarnings⟩

end ScriptBridge
