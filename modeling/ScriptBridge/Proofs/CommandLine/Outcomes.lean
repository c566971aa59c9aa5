import Mathlib
import ScriptBridge.CommandLine
import ScriptBridge.Proofs.Artifact.Agreement
import ScriptBridge.Proofs.Outcome
import ScriptBridge.Proofs.Session.Coherence
import ScriptBridge.Proofs.Session.Writing
import ScriptBridge.Proofs.Surface.Exploration
import ScriptBridge.Proofs.TypeRef.Declared

/-!
# How a run ends

A run loads all modules, takes all rules and finds a surface before it writes anything. If it gets so far,
it writes the artifacts that are made and names the others, and ends with exit code 0 if all are made and
written.
-/

namespace ScriptBridge

theorem ArtifactKind.mem_all (kind : ArtifactKind) : kind ∈ ArtifactKind.all := by
  cases kind <;> decide

theorem Artifacts.isComplete_iff {artifacts : Artifacts} :
    artifacts.isComplete = true ↔ ∀ kind, ∃ text, artifacts.get kind = .ok text := by
  have hkind : ∀ kind, (artifacts.fault? kind).isNone = true ↔ ∃ text, artifacts.get kind = .ok text := by
    intro kind
    unfold Artifacts.fault?
    cases artifacts.get kind <;> simp
  unfold Artifacts.isComplete ArtifactKind.all
  simp only [List.all_cons, List.all_nil, Bool.and_true, Bool.and_eq_true, hkind]
  constructor
  · rintro ⟨hdeclarations, hbindings, hserializer⟩ kind
    cases kind with
    | declarations => exact hdeclarations
    | bindings => exact hbindings
    | serializer => exact hserializer
  · exact fun hall => ⟨hall _, hall _, hall _⟩

namespace CommandLine

open FileTree Session

/-- The session of some modules under the settings of the options. -/
def Options.session (options : Options) (modules : List Descriptor) : Session where
  entryName := options.entry
  modules := modules
  ignores := options.ignores.filterMap id
  rules := options.rules.filterMap (·.bind ruleOf?)

/-- The modules are loaded, the rules have an equals sign, and the session of all that finds a surface. -/
structure Options.Prepares (options : Options) (tree : FileTree) (surface : Surface) : Prop where
  finds : ∃ modules, List.Forall₂ (fun path module => readModule tree path = .ok module)
    options.modules modules ∧ (options.session modules).inspect.result = .ok surface
  rules : ∀ given ∈ options.rules, ∃ text, given = some text ∧ '=' ∈ text.toList

/-- The paths of the artifacts can be paths of files at once. -/
def Compatible (paths : ArtifactKind → String) : Prop :=
  ∃ tree : FileTree, ∀ kind, ∃ text, tree.read (paths kind) = .ok text

/-- What a run leaves at the path of an artifact, and the line that tells it. -/
inductive Told (artifacts : Artifacts) (paths : ArtifactKind → String) (before after : FileTree)
    (kind : ArtifactKind) : String → Prop
  | generated {text : String} : artifacts.get kind = .ok text → after.read (paths kind) = .ok text →
    Told artifacts paths before after kind ("Generated: " ++ paths kind)
  | failed {fault : EmitFault} : artifacts.get kind = .error fault →
    after.textAt? (placeOf (paths kind)) = before.textAt? (placeOf (paths kind)) →
    (Compatible paths →
      after.isDirectory (placeOf (paths kind)) = before.isDirectory (placeOf (paths kind))) →
    Told artifacts paths before after kind
      ("Failed: " ++ paths kind ++ " (" ++ kind.failureText fault ++ ")")

/-- How a run ends: before anything is written, at an artifact that cannot be written, or with a line for
each artifact. -/
inductive Ending (options : Options) (tree : FileTree) (paths : ArtifactKind → String)
    (result : Run) : Prop
  | refused : (∀ surface, ¬ options.Prepares tree surface) → result.exitCode = 1 →
    result.tree = tree → Ending options tree paths result
  | stopped {surface : Surface} : options.Prepares tree surface →
    (∀ after, ¬ Writes (Artifacts.ofSurface surface []) paths ArtifactKind.all tree after) →
    result.exitCode = 1 → Ending options tree paths result
  | finished {surface : Surface} : options.Prepares tree surface →
    Writes (Artifacts.ofSurface surface []) paths ArtifactKind.all tree result.tree →
    result.exitCode = (if (Artifacts.ofSurface surface []).isComplete then 0 else 1) →
    result.output = ArtifactKind.all.map (outcomeLine paths (Artifacts.ofSurface surface [])) →
    Ending options tree paths result

section Runs

variable {options : Options} {tree before after : FileTree} {s loaded : Session} {result : Run}
  {paths : ArtifactKind → String} {kind : ArtifactKind} {artifacts : Artifacts} {surface : Surface}

/-! ### Modules and rules -/

theorem ruleOf?_eq_none_iff {text : String} : ruleOf? text = none ↔ '=' ∉ text.toList := by
  unfold ruleOf? splitValue
  cases hrest : text.toList.dropWhile (· != '=') with
  | nil =>
    have hnone : ∀ c ∈ text.toList, c ≠ '=' := by simpa using List.dropWhile_eq_nil_iff.1 hrest
    simpa using fun hmem => hnone '=' hmem rfl
  | cons c rest =>
    have hhead := List.head?_dropWhile_not (· != '=') text.toList
    rw [hrest] at hhead
    obtain rfl : c = '=' := by simpa using hhead
    have hmem : '=' ∈ text.toList.dropWhile (· != '=') := by simp [hrest]
    simpa using (List.dropWhile_suffix _).subset hmem

theorem loadAll_eq_ok_iff {names : List String} (hnone : s.surface = none) :
    loadAll tree names s = .ok loaded ↔
      ∃ modules, List.Forall₂ (fun path module => readModule tree path = .ok module) names modules ∧
        loaded = { s with modules := s.modules ++ modules } := by
  induction names generalizing s with
  | nil => simp [loadAll, eq_comm]
  | cons path names ih =>
    have hadded : ∀ module, (s.addModule module).surface = none := fun _ => rfl
    rw [loadAll, Outcome.bind_eq_ok_iff]
    constructor
    · rintro ⟨⟨module, middle⟩, hload, hrest⟩
      obtain ⟨read, hread, hload⟩ := Outcome.bind_eq_ok_iff.1 hload
      cases hload
      obtain ⟨modules, hmodules, rfl⟩ := (ih (hadded _)).1 hrest
      exact ⟨module :: modules, .cons hread hmodules, by simp [addModule, hnone]⟩
    · rintro ⟨modules, hmodules, rfl⟩
      cases hmodules with
      | @cons _ module _ modules hread hrest =>
        refine ⟨(module, s.addModule module), Outcome.bind_eq_ok_iff.2 ⟨module, hread, rfl⟩, ?_⟩
        exact (ih (hadded _)).2 ⟨modules, hrest, by simp [addModule, hnone]⟩

theorem addRules_eq_ok_iff {rules : List (Option String)} (hnone : s.surface = none) :
    addRules rules s = .ok loaded ↔
      (∀ given ∈ rules, ∃ text, given = some text ∧ '=' ∈ text.toList) ∧
        loaded = { s with rules := s.rules ++ rules.filterMap (·.bind ruleOf?) } := by
  induction rules generalizing s with
  | nil => simp [addRules, eq_comm]
  | cons given rules ih =>
    cases given with
    | none => simp [addRules]
    | some text =>
      rw [addRules]
      cases hrule : ruleOf? text with
      | none =>
        have hmark := ruleOf?_eq_none_iff.1 hrule
        simp [hmark]
      | some rule =>
        have hmark : '=' ∈ text.toList := by
          by_contra hmark
          rw [ruleOf?_eq_none_iff.2 hmark] at hrule
          cases hrule
        have hadded : (s.addRule rule).surface = none := rfl
        rw [ih hadded]
        simp [hmark, hrule, addRule, hnone]

theorem filterMap_id_of_mapM {names : List String} {given : List (Option String)}
    (hnames : given.mapM id = some names) : given.filterMap id = names := by
  induction given generalizing names with
  | nil =>
    cases hnames
    rfl
  | cons first rest ih =>
    rw [List.mapM_cons] at hnames
    obtain ⟨name, hfirst, hnames⟩ := Option.bind_eq_some_iff.1 hnames
    obtain ⟨others, hrest, hnames⟩ := Option.bind_eq_some_iff.1 hnames
    cases hnames
    rw [List.filterMap_cons_some hfirst, ih hrest]

/-! ### Stages -/

theorem exists_failed_of_stopped {failure : Failure} {log : List LogRecord}
    (hstopped : stopped failure log tree = .ok result) : ∃ message, result = failed message log tree := by
  unfold stopped at hstopped
  split at hstopped
  case h_5 =>
    cases hstopped
    exact ⟨_, rfl⟩
  all_goals cases hstopped

/-- What is prepared has been loaded, and all rules have been taken. -/
theorem Options.Prepares.ruled (hprepares : options.Prepares tree surface) :
    ∃ loaded ruled, loadAll tree options.modules { entryName := options.entry } = .ok loaded ∧
      addRules options.rules loaded = .ok ruled := by
  obtain ⟨modules, hmodules, -⟩ := hprepares.finds
  exact ⟨_, _, (loadAll_eq_ok_iff rfl).2 ⟨modules, hmodules, rfl⟩,
    (addRules_eq_ok_iff rfl).2 ⟨hprepares.rules, rfl⟩⟩

theorem prepares_iff {modules : List Descriptor}
    (hmodules : List.Forall₂ (fun path module => readModule tree path = .ok module)
      options.modules modules)
    (hmarks : ∀ given ∈ options.rules, ∃ text, given = some text ∧ '=' ∈ text.toList) :
    options.Prepares tree surface ↔ (options.session modules).inspect.result = .ok surface := by
  constructor
  · intro hprepares
    obtain ⟨others, hothers, hfinds⟩ := hprepares.finds
    have hsame := (Outcome.mapM_eq_ok_iff.2 hmodules).symm.trans (Outcome.mapM_eq_ok_iff.2 hothers)
    cases hsame
    exact hfinds
  · exact fun hfinds => ⟨⟨modules, hmodules, hfinds⟩, hmarks⟩

theorem Options.Prepares.unique {other : Surface} (hfirst : options.Prepares tree surface)
    (hsecond : options.Prepares tree other) : surface = other := by
  obtain ⟨modules, hmodules, hfinds⟩ := hfirst.finds
  have hother := (prepares_iff hmodules hfirst.rules).1 hsecond
  exact Except.ok.inj (hfinds.symm.trans hother)

/-- The session that a run asks for a surface is the one that the options describe. -/
theorem exists_session {ruled : Session} {names : List String}
    (hload : loadAll tree options.modules { entryName := options.entry } = .ok loaded)
    (hrules : addRules options.rules loaded = .ok ruled)
    (hnames : options.ignores.mapM id = some names) :
    ∃ modules, ruled.ignore names = options.session modules ∧
      ∀ surface, options.Prepares tree surface ↔
        (options.session modules).inspect.result = .ok surface := by
  obtain ⟨modules, hmodules, rfl⟩ := (loadAll_eq_ok_iff rfl).1 hload
  obtain ⟨hmarks, rfl⟩ := (addRules_eq_ok_iff rfl).1 hrules
  refine ⟨modules, ?_, fun surface => prepares_iff hmodules hmarks⟩
  rw [Options.session, filterMap_id_of_mapM hnames]
  rfl

theorem ending_of_runSession {names : List String} {modules : List Descriptor}
    (hsession : s.ignore names = options.session modules)
    (hprepares : ∀ surface, options.Prepares tree surface ↔
      (options.session modules).inspect.result = .ok surface)
    (hnames : options.ignores.mapM id = some names) (hpaths : options.paths? = some paths)
    (hrun : runSession options s tree = .ok result) : Ending options tree paths result := by
  have hhandlers : (options.session modules).handlers = [] := rfl
  simp only [runSession, hnames, hpaths, hsession, result_write, result_generate, hhandlers] at hrun
  cases hinspect : (options.session modules).inspect.result with
  | error e =>
    simp only [hinspect, Except.map] at hrun
    obtain ⟨message, rfl⟩ := exists_failed_of_stopped hrun
    refine .refused (fun surface hprepared => ?_) rfl rfl
    cases hinspect.symm.trans ((hprepares surface).1 hprepared)
  | ok surface =>
    have hprepared := (hprepares surface).2 hinspect
    simp only [hinspect, Except.map] at hrun
    cases hall : writeAll (Artifacts.ofSurface surface [])
        (ArtifactKind.all.map fun kind => (kind, paths kind)) tree with
    | mk written rest =>
      obtain ⟨log, after⟩ := rest
      rw [hall] at hrun
      cases written with
      | error fault =>
        obtain ⟨message, rfl⟩ := exists_failed_of_stopped hrun
        refine .stopped hprepared (fun other hwrites => ?_) rfl
        obtain ⟨_, hwritten⟩ := writeAll_eq_ok_iff.2 hwrites
        cases hall.symm.trans hwritten
      | ok _ =>
        cases hrun
        exact .finished hprepared (writeAll_eq_ok_iff.1 ⟨log, hall⟩) rfl rfl

/-- Every run that ends does so in one of three ways, and writes only where a surface has been found. -/
theorem ending_of_run (hpaths : options.paths? = some paths) (hrun : run options tree = .ok result) :
    Ending options tree paths result := by
  unfold run at hrun
  cases hload : loadAll tree options.modules { entryName := options.entry } with
  | error failure =>
    rw [hload] at hrun
    obtain ⟨message, rfl⟩ := exists_failed_of_stopped hrun
    refine .refused (fun surface hprepares => ?_) rfl rfl
    obtain ⟨loaded, _, hloaded, -⟩ := hprepares.ruled
    cases hload.symm.trans hloaded
  | ok loaded =>
    rw [hload] at hrun
    dsimp only at hrun
    cases hrules : addRules options.rules loaded with
    | error fault =>
      rw [hrules] at hrun
      cases fault with
      | missing => cases hrun
      | malformed text =>
        cases hrun
        refine .refused (fun surface hprepares => ?_) rfl rfl
        obtain ⟨other, _, hother, hruled⟩ := hprepares.ruled
        cases hload.symm.trans hother
        cases hrules.symm.trans hruled
    | ok ruled =>
      rw [hrules] at hrun
      cases hnames : options.ignores.mapM id with
      | none =>
        simp only [runSession, hnames] at hrun
        cases hrun
      | some names =>
        obtain ⟨modules, hsession, hprepares⟩ := exists_session hload hrules hnames
        exact ending_of_runSession hsession hprepares hnames hpaths hrun

/-- Exit code 0 tells that everything is made and written. -/
theorem Ending.exitCode_eq_zero (hending : Ending options tree paths result)
    (hzero : result.exitCode = 0) :
    ∃ surface, options.Prepares tree surface ∧ (Artifacts.ofSurface surface []).isComplete = true ∧
      Writes (Artifacts.ofSurface surface []) paths ArtifactKind.all tree result.tree ∧
      result.output = ArtifactKind.all.map (outcomeLine paths (Artifacts.ofSurface surface [])) := by
  cases hending with
  | refused _ hcode | stopped _ _ hcode => cases hzero.symm.trans hcode
  | @finished surface hprepares hwrites hcode houtput =>
    refine ⟨surface, hprepares, ?_, hwrites, houtput⟩
    by_contra hincomplete
    rw [if_neg hincomplete] at hcode
    cases hzero.symm.trans hcode

/-- Where all that is made can be written, a run comes to its end. -/
theorem Ending.finished_of_writes (hending : Ending options tree paths result)
    (hprepares : options.Prepares tree surface)
    (hwrites : Writes (Artifacts.ofSurface surface []) paths ArtifactKind.all tree after) :
    Writes (Artifacts.ofSurface surface []) paths ArtifactKind.all tree result.tree ∧
      result.exitCode = (if (Artifacts.ofSurface surface []).isComplete then 0 else 1) ∧
      result.output = ArtifactKind.all.map (outcomeLine paths (Artifacts.ofSurface surface [])) := by
  cases hending with
  | refused hnone => exact absurd hprepares (hnone surface)
  | stopped hother hfails =>
    cases hprepares.unique hother
    exact absurd hwrites (hfails after)
  | finished hother hwritten hcode houtput =>
    cases hprepares.unique hother
    exact ⟨hwritten, hcode, houtput⟩

/-- A run ends if all names to ignore are there and all that is made can be written. -/
theorem exists_run_of_writes {names : List String} (hpaths : options.paths? = some paths)
    (hnames : options.ignores.mapM id = some names) (hprepares : options.Prepares tree surface)
    (hwrites : Writes (Artifacts.ofSurface surface []) paths ArtifactKind.all tree after) :
    ∃ result, run options tree = .ok result := by
  obtain ⟨loaded, ruled, hload, hrules⟩ := hprepares.ruled
  obtain ⟨modules, hsession, hfinds⟩ := exists_session hload hrules hnames
  obtain ⟨log, hall⟩ := writeAll_eq_ok_iff.2 hwrites
  have hinspect := (hfinds surface).1 hprepares
  have hhandlers : (options.session modules).handlers = [] := rfl
  simp only [run, hload, hrules, runSession, hnames, hpaths, hsession, result_write, result_generate,
    hinspect, hhandlers, Except.map, Except.mapError, hall]
  exact ⟨_, rfl⟩

/-! ### Lines and files -/

/-- No other artifact changes anything at the path of one that is not made. -/
theorem not_putAt_of_error {fault : EmitFault}
    (hplaces : Function.Injective fun kind => placeOf (paths kind))
    (hget : artifacts.get kind = .error fault) :
    ¬ PutAt artifacts paths ArtifactKind.all (placeOf (paths kind)) := by
  rintro ⟨other, -, hsame, text, hmade⟩
  rw [hplaces hsame] at hmade
  cases hget.symm.trans hmade

/-- Where files can be at all paths at once, no directory is made in the place of one. -/
theorem isDirectory_eq_of_compatible (hcompatible : Compatible paths)
    (hwrites : Writes artifacts paths ArtifactKind.all before after) (kind : ArtifactKind) :
    after.isDirectory (placeOf (paths kind)) = before.isDirectory (placeOf (paths kind)) := by
  obtain ⟨ideal, hideal⟩ := hcompatible
  rw [Bool.eq_iff_iff]
  refine ⟨fun hafter => ?_, hwrites.isDirectory⟩
  rcases hwrites.leadsThrough hafter with hbefore | ⟨other, -, hleads⟩
  · exact hbefore
  · obtain ⟨text, hread⟩ := hideal other
    obtain ⟨own, hown⟩ := hideal kind
    have hthere : ideal.isDirectory (placeOf (paths kind)) = true :=
      isDirectory_of_leadsThrough hread hleads
    obtain ⟨-, hfree, -⟩ := locate_eq_ok_iff.1 (read_eq_ok_iff.1 hown).1
    cases hfree.symm.trans hthere

theorem told_of_writes (hplaces : Function.Injective fun kind => placeOf (paths kind))
    (hwrites : Writes artifacts paths ArtifactKind.all before after) (kind : ArtifactKind) :
    Told artifacts paths before after kind (outcomeLine paths artifacts kind) := by
  unfold outcomeLine Artifacts.fault?
  cases hget : artifacts.get kind with
  | ok text => exact .generated hget (hwrites.read (by decide) hplaces kind.mem_all hget)
  | error fault =>
    exact .failed hget (hwrites.textAt? (not_putAt_of_error hplaces hget)) fun hcompatible =>
      isDirectory_eq_of_compatible hcompatible hwrites kind

theorem outcomeLine_of_isComplete (hcomplete : artifacts.isComplete = true) (kind : ArtifactKind) :
    outcomeLine paths artifacts kind = "Generated: " ++ paths kind := by
  obtain ⟨text, hget⟩ := Artifacts.isComplete_iff.1 hcomplete kind
  unfold outcomeLine Artifacts.fault?
  rw [hget]

/-- A run of paths to different places ends with exit code 0 exactly if all modules are loaded, all rules
have an equals sign, a surface is found, and all artifacts are made and written; then it tells so of each
in order, and each is read at its path. If no surface is found, nothing is written. If an artifact is not
made, the run tells so, its path is left as it was, and the others are written. -/
theorem exitCode_and_files_of_run (hpaths : options.paths? = some paths)
    (hplaces : Function.Injective fun kind => placeOf (paths kind))
    (hrun : run options tree = .ok result) :
    (result.exitCode = 0 ↔ ∃ surface after, options.Prepares tree surface ∧
        (∀ kind, ∃ text, (Artifacts.ofSurface surface []).get kind = .ok text) ∧
        Writes (Artifacts.ofSurface surface []) paths ArtifactKind.all tree after) ∧
      (result.exitCode = 0 → ∃ surface, options.Prepares tree surface ∧
        result.output = ArtifactKind.all.map (fun kind => "Generated: " ++ paths kind) ∧
        ∀ kind, ∃ text, (Artifacts.ofSurface surface []).get kind = .ok text ∧
          result.tree.read (paths kind) = .ok text) ∧
      ((∀ surface, ¬ options.Prepares tree surface) → result.exitCode = 1 ∧ result.tree = tree) ∧
      ∀ surface after, options.Prepares tree surface →
        Writes (Artifacts.ofSurface surface []) paths ArtifactKind.all tree after →
        (∃ kind fault, (Artifacts.ofSurface surface []).get kind = .error fault) →
        result.exitCode = 1 ∧ List.Forall₂ (Told (Artifacts.ofSurface surface []) paths tree result.tree)
          ArtifactKind.all result.output := by
  have hending := ending_of_run hpaths hrun
  refine ⟨⟨fun hzero => ?_, ?_⟩, fun hzero => ?_, fun hnone => ?_, ?_⟩
  · obtain ⟨surface, hprepares, hcomplete, hwrites, -⟩ := hending.exitCode_eq_zero hzero
    exact ⟨surface, _, hprepares, Artifacts.isComplete_iff.1 hcomplete, hwrites⟩
  · rintro ⟨surface, after, hprepares, hcomplete, hwrites⟩
    obtain ⟨-, hcode, -⟩ := hending.finished_of_writes hprepares hwrites
    rw [hcode, if_pos (Artifacts.isComplete_iff.2 hcomplete)]
  · obtain ⟨surface, hprepares, hcomplete, hwrites, houtput⟩ := hending.exitCode_eq_zero hzero
    refine ⟨surface, hprepares, ?_, fun kind => ?_⟩
    · rw [houtput]
      exact List.map_congr_left fun kind _ => outcomeLine_of_isComplete hcomplete kind
    · obtain ⟨text, hget⟩ := Artifacts.isComplete_iff.1 hcomplete kind
      exact ⟨text, hget, hwrites.read (by decide) hplaces kind.mem_all hget⟩
  · cases hending with
    | refused _ hcode htree => exact ⟨hcode, htree⟩
    | stopped hprepares | finished hprepares => exact absurd hprepares (hnone _)
  · rintro surface after hprepares hwrites ⟨kind, fault, hfails⟩
    obtain ⟨hwritten, hcode, houtput⟩ := hending.finished_of_writes hprepares hwrites
    constructor
    · rw [hcode, if_neg fun hcomplete => ?_]
      obtain ⟨text, hget⟩ := Artifacts.isComplete_iff.1 hcomplete kind
      cases hfails.symm.trans hget
    · rw [houtput, List.forall₂_map_right_iff, List.forall₂_same]
      exact fun kind _ => told_of_writes hplaces hwritten kind

end Runs

/-! ### A loom whose bindings fail -/

def loomDocument : Value :=
  .record [("assembly", .text "Loom"),
    ("methods", .list [.record [("kind", .text "invokable"), ("namespace", .text "loom"),
      ("name", .text "Weave"),
      ("args", .list [.record [("name", .int 5), ("type", .text "int")]])]])]

def loomText : String :=
  "\x7b\"assembly\": \"Loom\", \"methods\": [\x7b\"kind\": \"invokable\", " ++
    "\"namespace\": \"loom\", \"name\": \"Weave\", " ++
    "\"args\": [\x7b\"name\": 5, \"type\": \"int\"\x7d]\x7d]\x7d"

def loomTree : FileTree := { files := [(["loom.json"], loomText)] }

def loomOptions : Options := { modules := ["loom.json"] }

def loomPaths : ArtifactKind → String
  | .declarations => "gen/bindings.d.ts"
  | .bindings => "gen/bindings.g.js"
  | .serializer => "gen/SerializerContext.g.cs"

theorem readModule_loom : readModule loomTree "loom.json" = .ok loomModule := by
  have hread : loomTree.read "loom.json" = .ok loomText := by decide +kernel
  have hdocument : Value.read loomText = .ok loomDocument := by decide +kernel
  have hmodule : Descriptor.ofValue loomDocument "loom.json" = .ok loomModule := rfl
  unfold readModule Descriptor.ofText
  simp only [hread, hdocument, hmodule]
  rfl

theorem inspect_loom : (loomOptions.session [loomModule]).inspect.result = .ok loomSurface := by
  have hrules : Namespace.Resolver.ofRules (loomOptions.session [loomModule]).effectiveRules =
      .ok { rules := [] } := rfl
  rw [(coherent_of_surface_eq_none rfl).result_inspect, fst_find_of_ok hrules]
  exact inspect_loomModule

theorem prepares_loom : loomOptions.Prepares loomTree loomSurface where
  finds := ⟨[loomModule], .cons readModule_loom .nil, inspect_loom⟩
  rules := fun _ hmem => nomatch hmem

theorem paths_loom : loomOptions.paths? = some loomPaths := by
  have hpath : ∀ kind, loomOptions.path? kind = some (loomPaths kind) := by
    intro kind
    cases kind <;> decide +kernel
  simp only [Options.paths?, hpath, Option.bind_eq_bind, Option.bind_some, Option.pure_def]
  refine congrArg some (funext fun kind => ?_)
  cases kind <;> rfl

theorem injective_loomPaths : Function.Injective fun kind => placeOf (loomPaths kind) := by
  intro left right hsame
  have hplaces : placeOf (loomPaths left) = placeOf (loomPaths right) := hsame
  revert hplaces
  cases left <;> cases right <;> decide +kernel

theorem writes_loom : ∃ after, Writes (Artifacts.ofSurface loomSurface []) loomPaths
    ArtifactKind.all loomTree after := by
  have hwritten : (writeAll (Artifacts.ofSurface loomSurface [])
      (ArtifactKind.all.map fun kind => (kind, loomPaths kind)) loomTree).1 = .ok () := by
    decide +kernel
  exact ⟨_, writeAll_eq_ok_iff.1 ⟨_, Prod.ext hwritten rfl⟩⟩

/-- The run tells that the bindings have failed, and writes the other two artifacts. -/
theorem told_loom :
    loomOptions.paths? = some loomPaths ∧
      (Function.Injective fun kind => placeOf (loomPaths kind)) ∧
      ∃ result first last, run loomOptions loomTree = .ok result ∧ result.exitCode = 1 ∧
        result.output = [first, "Failed: gen/bindings.g.js (failed to generate bindings: " ++
          "sequence item 0: expected str instance, int found)", last] ∧
        Told (Artifacts.ofSurface loomSurface []) loomPaths loomTree result.tree .declarations first ∧
        Told (Artifacts.ofSurface loomSurface []) loomPaths loomTree result.tree .serializer last := by
  obtain ⟨after, hwrites⟩ := writes_loom
  obtain ⟨result, hrun⟩ := exists_run_of_writes paths_loom rfl prepares_loom hwrites
  obtain ⟨-, -, -, hincomplete⟩ := exitCode_and_files_of_run paths_loom injective_loomPaths hrun
  obtain ⟨hcode, htold⟩ := hincomplete _ after prepares_loom hwrites ⟨_, _, bindings_loomSurface⟩
  refine ⟨paths_loom, injective_loomPaths, result, ?_⟩
  generalize result.output = output at htold ⊢
  obtain _ | ⟨hfirst, _ | ⟨hsecond, _ | ⟨hlast, _ | _⟩⟩⟩ := htold
  cases hsecond with
  | generated hget => cases bindings_loomSurface.symm.trans hget
  | failed hfails =>
    cases bindings_loomSurface.symm.trans hfails
    exact ⟨_, _, hrun, hcode, rfl, hfirst, hlast⟩

end CommandLine

end ScriptBridge
