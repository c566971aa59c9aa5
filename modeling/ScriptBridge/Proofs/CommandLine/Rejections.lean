import ScriptBridge.CommandLine
import ScriptBridge.Proofs.Descriptor.Declarations
import ScriptBridge.Proofs.Session.Coherence
import ScriptBridge.Proofs.Surface.Failures

/-!
# What a run reports

Loading, inspecting and running report a defect of what they are given, as long as each value can be used
where it is used: documents fit, names and types are texts, and replacements name groups of their patterns.
-/

namespace ScriptBridge

open Namespace

/-! ### Rules -/

section Rules

variable {rule : NamespaceRule} {rules : List NamespaceRule}

/-- The pattern is a text. It is malformed, or it is read and the replacement names groups of it. -/
def NamespaceRule.Usable (rule : NamespaceRule) : Prop :=
  ∃ source, rule.pattern = .text source ∧
    (NumberedPattern.read source = .error .malformed ∨
      ∃ pattern, NumberedPattern.read source = .ok pattern ∧
        CompiledRule.NamesGroups { source, pattern, replacement := rule.replacement })

theorem NamespaceRule.Usable.reports_ofRule (husable : rule.Usable) :
    Reports (CompiledRule.ofRule rule) := by
  obtain ⟨source, hsource, hmalformed | ⟨pattern, hread, -⟩⟩ := husable
  · intro misuse heq
    unfold CompiledRule.ofRule at heq
    rw [hsource] at heq
    simp only [hmalformed] at heq
    cases heq
  · intro misuse heq
    unfold CompiledRule.ofRule at heq
    rw [hsource] at heq
    simp only [hread] at heq
    cases heq

theorem NamespaceRule.Usable.namesGroups (husable : rule.Usable) {compiled : CompiledRule}
    (hcompiled : CompiledRule.ofRule rule = .ok compiled) : compiled.NamesGroups := by
  unfold CompiledRule.ofRule at hcompiled
  obtain ⟨source, hsource, hmalformed | ⟨pattern, hread, hgroups⟩⟩ := husable
  · rw [hsource] at hcompiled
    simp only [hmalformed] at hcompiled
    cases hcompiled
  · rw [hsource] at hcompiled
    simp only [hread] at hcompiled
    cases hcompiled
    exact hgroups

theorem reports_ofRules (husable : ∀ rule ∈ rules, rule.Usable) : Reports (Resolver.ofRules rules) :=
  (reports_mapM fun rule hrule => (husable rule hrule).reports_ofRule).bind fun _ _ => reports_ok _

theorem namesGroups_of_ofRules (husable : ∀ rule ∈ rules, rule.Usable) {resolver : Resolver}
    (hresolver : Resolver.ofRules rules = .ok resolver) :
    ∀ rule ∈ resolver.rules, rule.NamesGroups := by
  obtain ⟨compiled, hcompiled, hresolver⟩ := Outcome.bind_eq_ok_iff.1 hresolver
  cases hresolver
  intro rule hrule
  obtain ⟨given, hgiven, hread⟩ := Outcome.exists_of_mem_results hcompiled hrule
  exact (husable given hgiven).namesGroups hread

end Rules

/-! ### Sessions -/

/-- What is in a module can be used as an inspection uses it. The assembly and the names of the types,
which need be no texts, can be shown. -/
structure Descriptor.Sound (module : Descriptor) : Prop where
  texts : module.Textual
  rules : ∀ rule ∈ module.rules, rule.Usable
  assembly : module.assembly.Short
  names : ∀ decl ∈ module.types, decl.name.Short

namespace Session

/-- What has been given to the session can be used as an inspection uses it. -/
structure Sound (s : Session) : Prop where
  modules : ∀ module ∈ s.modules, module.Sound
  rules : ∀ rule ∈ s.rules, rule.Usable

section Sessions

variable {s : Session}

theorem sound_start (entryName : String) : Sound { entryName } where
  modules := fun _ hmem => nomatch hmem
  rules := fun _ hmem => nomatch hmem

theorem Sound.addModule (hsound : s.Sound) {module : Descriptor} (hmodule : module.Sound) :
    (s.addModule module).Sound where
  modules := by
    intro other hother
    rcases List.mem_append.1 hother with hother | hother
    · exact hsound.modules other hother
    · rwa [List.mem_singleton.1 hother]
  rules := hsound.rules

theorem Sound.addRule (hsound : s.Sound) {rule : NamespaceRule} (hrule : rule.Usable) :
    (s.addRule rule).Sound where
  modules := hsound.modules
  rules := by
    intro other hother
    rcases List.mem_append.1 hother with hother | hother
    · exact hsound.rules other hother
    · rwa [List.mem_singleton.1 hother]

theorem Sound.ignore (hsound : s.Sound) (names : List String) : (s.ignore names).Sound :=
  ⟨hsound.modules, hsound.rules⟩

theorem mem_modules_of_entry {module : Descriptor} (hentry : s.entry? = some module) :
    module ∈ s.modules := by
  unfold entry? at hentry
  split at hentry
  · rename_i found hfound
    cases hentry
    exact List.mem_of_find?_eq_some hfound
  · split at hentry
    · exact List.mem_of_head? hentry
    · cases hentry

theorem Sound.effectiveRules (hsound : s.Sound) : ∀ rule ∈ s.effectiveRules, rule.Usable := by
  intro rule hrule
  rcases List.mem_append.1 hrule with hrule | hrule
  · cases hentry : s.entry? with
    | none =>
      rw [hentry] at hrule
      cases hrule
    | some module =>
      rw [hentry] at hrule
      exact (hsound.modules module (mem_modules_of_entry hentry)).rules rule hrule
  · exact hsound.rules rule hrule

/-- The patterns of the rules are read, and no method that is kept is at fault under them. -/
def Faultless (s : Session) : Prop :=
  ∃ resolver, Resolver.ofRules s.effectiveRules = .ok resolver ∧
    ∀ pair ∈ withEarlier [] (keptMethods s.ignores s.modules), ∀ defect,
      ¬ Faulty (Registry.ofModules s.modules) resolver pair.1 pair.2 defect

theorem faultless_of_find {surface : Surface} (hfind : s.find.1 = .ok surface) : s.Faultless := by
  cases hrules : Resolver.ofRules s.effectiveRules with
  | error e =>
    rw [fst_find_of_error hrules] at hfind
    cases hfind
  | ok resolver =>
    rw [fst_find_of_ok hrules] at hfind
    exact ⟨resolver, hrules, not_faulty_of_inspect hfind⟩

theorem Sound.rejected_of_find (hsound : s.Sound) {e : Error} (hfind : s.find.1 = .error e) :
    ¬ s.Faultless ∧ ∃ path defect, e = .rejected path defect := by
  have husable := hsound.effectiveRules
  cases hrules : Resolver.ofRules s.effectiveRules with
  | error failure =>
    rw [fst_find_of_error hrules] at hfind
    cases hfind
    constructor
    · rintro ⟨resolver, hresolver, -⟩
      rw [hrules] at hresolver
      cases hresolver
    · have hreports := reports_ofRules husable
      rw [hrules] at hreports
      rcases reports_iff.1 hreports with ⟨resolver, heq⟩ | ⟨path, defect, heq⟩
      · cases heq
      · exact ⟨path, defect, Except.error.inj heq⟩
  | ok resolver =>
    rw [fst_find_of_ok hrules] at hfind
    obtain ⟨_, _, _, _, _, hfirst, -, rfl⟩ := firstFault_of_inspect (.made hrules)
      (namesGroups_of_ofRules husable hrules)
      (fun module hmodule => (hsound.modules module hmodule).texts) hfind
    obtain ⟨pair, hpair, defect, hfaulty⟩ := exists_of_firstFault hfirst
    refine ⟨?_, _, _, rfl⟩
    rintro ⟨other, hother, hfaultless⟩
    rw [hrules] at hother
    cases hother
    exact hfaultless pair hpair defect hfaulty

/-- An inspection of a sound session finds a surface if nothing is at fault, and else it is rejected. -/
theorem Sound.found_or_rejected (hsound : s.Sound) (hcoherent : s.Coherent) :
    (s.Faultless ∧ ∃ surface, s.inspect.result = .ok surface) ∨
      ¬ s.Faultless ∧ ∃ path defect, s.inspect.result = .error (.rejected path defect) := by
  rw [hcoherent.result_inspect]
  cases hfind : s.find.1 with
  | ok surface => exact .inl ⟨faultless_of_find hfind, surface, rfl⟩
  | error e =>
    obtain ⟨hfaulty, path, defect, rfl⟩ := hsound.rejected_of_find hfind
    exact .inr ⟨hfaulty, path, defect, rfl⟩

end Sessions

end Session

/-! ### Runs -/

namespace CommandLine

open Session

/-- A file that a descriptor can be read from. It need not be one, nor hold valid JSON. -/
structure Readable (tree : FileTree) (path : String) : Prop where
  reads : ∃ text, tree.read path = .ok text ∧ (Value.read text = .error .malformed ∨
    ∃ document, Value.read text = .ok document ∧ document.Fits)
  texts : ∀ module, readModule tree path = .ok module → module.Textual
  rules : ∀ module, readModule tree path = .ok module → ∀ rule ∈ module.rules, rule.Usable

/-- The values that the options name are there, and what they lead to can be used. -/
structure Presents (options : Options) (tree : FileTree) : Prop where
  modules : ∀ path ∈ options.modules, Readable tree path
  rules : ∀ given ∈ options.rules, ∃ text, given = some text ∧
    ∀ rule, ruleOf? text = some rule → rule.Usable
  ignores : ∃ names, options.ignores.mapM id = some names
  paths : ∃ paths, options.paths? = some paths

/-- What a run says if it refuses what it is given: a defect of it, or a rule without an equals sign. -/
inductive Refusal (options : Options) : String → Prop
  | defect (path : List String) (defect : Defect) : Refusal options (Error.rejected path defect).message
  | rule {text : String} : some text ∈ options.rules → ruleOf? text = none →
    Refusal options ("invalid rule \"" ++ text ++ "\", expected PATTERN=REPLACEMENT")

/-- The session that the options describe, with what is in the files, finds a surface. -/
def Finds (options : Options) (tree : FileTree) (surface : Surface) : Prop :=
  ∃ loaded ruled names, loadAll tree options.modules { entryName := options.entry } = .ok loaded ∧
    addRules options.rules loaded = .ok ruled ∧ options.ignores.mapM id = some names ∧
    (ruled.ignore names).inspect.result = .ok surface

section Runs

variable {options : Options} {tree : FileTree} {s after : Session}

theorem readModule_of_read {path text : String} {document : Value} (htext : tree.read path = .ok text)
    (hread : Value.read text = .ok document) :
    readModule tree path = (Descriptor.ofValue document path).mapError .error := by
  unfold readModule
  rw [htext]
  unfold Descriptor.ofText
  simp only [hread]

theorem Readable.sound {path : String} (hreadable : Readable tree path) {module : Descriptor}
    (hread : readModule tree path = .ok module) : module.Sound := by
  have hshort : module.assembly.Short ∧ ∀ decl ∈ module.types, decl.name.Short := by
    obtain ⟨text, htext, hmalformed | ⟨document, hdocument, hfits⟩⟩ := hreadable.reads
    · unfold readModule Descriptor.ofText at hread
      simp only [htext, hmalformed] at hread
      cases hread
    · rw [readModule_of_read htext hdocument] at hread
      exact Descriptor.short_of_ofValue hfits.short (Outcome.mapError_eq_ok_iff.1 hread)
  exact ⟨hreadable.texts module hread, hreadable.rules module hread, hshort.1, hshort.2⟩

theorem Readable.defect_of_readModule {path : String} (hreadable : Readable tree path)
    {failure : Failure} (hread : readModule tree path = .error failure) :
    ∃ names defect, failure = .error (.rejected names defect) := by
  obtain ⟨text, htext, hvalue⟩ := hreadable.reads
  have hreports : Reports (Descriptor.ofText text path) := by
    unfold Descriptor.ofText
    rcases hvalue with hmalformed | ⟨document, hdocument, hfits⟩
    · rw [hmalformed]
      intro misuse heq
      cases heq
    · rw [hdocument]
      exact Descriptor.reports_ofValue hfits path
  unfold readModule at hread
  rw [htext] at hread
  simp only at hread
  rcases reports_iff.1 hreports with ⟨module, hmodule⟩ | ⟨names, defect, hdefect⟩
  · rw [hmodule] at hread
    cases hread
  · rw [hdefect] at hread
    cases hread
    exact ⟨names, defect, rfl⟩

theorem sound_of_loadAll {paths : List String} (hreadable : ∀ path ∈ paths, Readable tree path)
    (hsound : s.Sound) (hload : loadAll tree paths s = .ok after) : after.Sound := by
  induction paths generalizing s with
  | nil =>
    cases hload
    exact hsound
  | cons path paths ih =>
    obtain ⟨hpath, hrest⟩ := List.forall_mem_cons.1 hreadable
    obtain ⟨⟨module, middle⟩, hfirst, hload⟩ := Outcome.bind_eq_ok_iff.1 hload
    obtain ⟨read, hread, hfirst⟩ := Outcome.bind_eq_ok_iff.1 hfirst
    cases hfirst
    exact ih hrest (hsound.addModule (hpath.sound hread)) hload

theorem defect_of_loadAll {paths : List String} (hreadable : ∀ path ∈ paths, Readable tree path)
    {failure : Failure} (hload : loadAll tree paths s = .error failure) :
    ∃ names defect, failure = .error (.rejected names defect) := by
  induction paths generalizing s with
  | nil => cases hload
  | cons path paths ih =>
    obtain ⟨hpath, hrest⟩ := List.forall_mem_cons.1 hreadable
    rcases Outcome.bind_eq_error_iff.1 hload with hfirst | ⟨⟨module, middle⟩, -, hload⟩
    · rcases Outcome.bind_eq_error_iff.1 hfirst with hread | ⟨read, -, hfirst⟩
      · exact hpath.defect_of_readModule hread
      · cases hfirst
    · exact ih hrest hload

/-- Rules that are there are all added, or one of them has no equals sign. -/
theorem sound_or_malformed_of_addRules {rules : List (Option String)} (hsound : s.Sound)
    (hrules : ∀ given ∈ rules, ∃ text, given = some text ∧
      ∀ rule, ruleOf? text = some rule → rule.Usable) :
    (∃ after, addRules rules s = .ok after ∧ after.Sound) ∨
      ∃ text, some text ∈ rules ∧ ruleOf? text = none ∧ addRules rules s = .error (.malformed text) := by
  induction rules generalizing s with
  | nil => exact .inl ⟨s, rfl, hsound⟩
  | cons given rules ih =>
    obtain ⟨⟨text, rfl, husable⟩, hrest⟩ := List.forall_mem_cons.1 hrules
    cases hrule : ruleOf? text with
    | none => exact .inr ⟨text, List.mem_cons_self, hrule, by rw [addRules, hrule]⟩
    | some rule =>
      rw [addRules, hrule]
      rcases ih (hsound.addRule (husable rule hrule)) hrest with hadded | ⟨other, hother, hmalformed⟩
      · exact .inl hadded
      · exact .inr ⟨other, List.mem_cons_of_mem _ hother, hmalformed⟩

/-- A session that is sound finds a surface, or its run stops at a defect. -/
theorem found_or_failed_of_runSession (tree : FileTree) (hsound : s.Sound) {names : List String}
    (hnames : options.ignores.mapM id = some names) {paths : ArtifactKind → String}
    (hpaths : options.paths? = some paths) :
    (∃ surface, (s.ignore names).inspect.result = .ok surface) ∨
      ∃ path defect log,
        runSession options s tree = .ok (failed (Error.rejected path defect).message log tree) := by
  rcases (hsound.ignore names).found_or_rejected (coherent_of_surface_eq_none rfl) with
    ⟨-, hfound⟩ | ⟨-, path, defect, hrejected⟩
  · exact .inl hfound
  · refine .inr ⟨path, defect, (s.ignore names).inspect.log, ?_⟩
    have hgenerate : (s.ignore names).generate.result = .error (.rejected path defect) ∧
        (s.ignore names).generate.log = (s.ignore names).inspect.log := by
      simp only [generate, hrejected, and_self]
    unfold runSession
    simp only [hnames, hpaths, write, hgenerate, stopped]
    rfl

/-- A run that is given what can be used finds a surface, or it says what it refuses. The files stay as
they are then. -/
theorem Presents.found_or_failed (hpresents : Presents options tree) :
    (∃ surface, Finds options tree surface) ∨
      ∃ message log, Refusal options message ∧ run options tree = .ok (failed message log tree) := by
  obtain ⟨names, hnames⟩ := hpresents.ignores
  obtain ⟨paths, hpaths⟩ := hpresents.paths
  unfold run
  cases hload : loadAll tree options.modules { entryName := options.entry } with
  | error failure =>
    obtain ⟨path, defect, rfl⟩ := defect_of_loadAll hpresents.modules hload
    exact .inr ⟨_, [], .defect path defect, rfl⟩
  | ok loaded =>
    have hloaded := sound_of_loadAll hpresents.modules (sound_start options.entry) hload
    rcases sound_or_malformed_of_addRules hloaded hpresents.rules with
      ⟨ruled, hadded, hruled⟩ | ⟨text, htext, hnone, hadded⟩
    · simp only [hadded]
      rcases found_or_failed_of_runSession tree hruled hnames hpaths with
        ⟨surface, hsurface⟩ | ⟨path, defect, log, hfailed⟩
      · exact .inl ⟨surface, loaded, ruled, names, hload, hadded, hnames, hsurface⟩
      · exact .inr ⟨_, log, .defect path defect, hfailed⟩
    · simp only [hadded]
      exact .inr ⟨_, [], .rule htext hnone, rfl⟩

end Runs

end CommandLine

namespace Descriptor

/-- A document that fits is loaded if it is a descriptor, and else it is rejected. -/
theorem loaded_or_rejected {document : Value} (hfits : document.Fits) (source : String) :
    (document.IsDescriptor source ∧ ∃ module, ofValue document source = .ok module) ∨
      ¬ document.IsDescriptor source ∧
        ∃ path defect, ofValue document source = .error (.rejected path defect) := by
  rcases reports_iff.1 (reports_ofValue hfits source) with hloaded | ⟨path, defect, hrejected⟩
  · exact .inl ⟨exists_ofValue_iff.1 hloaded, hloaded⟩
  · refine .inr ⟨fun hdescriptor => ?_, path, defect, hrejected⟩
    obtain ⟨module, hmodule⟩ := exists_ofValue hdescriptor
    rw [hrejected] at hmodule
    cases hmodule

end Descriptor

open CommandLine in
/-- Whatever can be used succeeds or is rejected. All that is read from a text can be shown. Descriptors
are loaded, and all that can be shown and is loaded fits; a session finds a surface if and only if nothing
in it is at fault; and a run finds a surface, or it ends with a line that says what it refuses and leaves
the files as they were. -/
theorem succeeds_or_rejects {document : Value} {s : Session} {options : Options} {tree : FileTree}
    (hfits : document.Fits) (hsound : s.Sound) (hcoherent : s.Coherent)
    (hpresents : Presents options tree) :
    (∀ text other, Value.read text = .ok other → other.Short) ∧
      (∀ other source module, other.Short → Descriptor.ofValue other source = .ok module →
        other.Fits) ∧
      (∀ source, (document.IsDescriptor source ∧
          ∃ module, Descriptor.ofValue document source = .ok module) ∨
        ¬ document.IsDescriptor source ∧
          ∃ path defect, Descriptor.ofValue document source = .error (.rejected path defect)) ∧
      ((s.Faultless ∧ ∃ surface, s.inspect.result = .ok surface) ∨
        ¬ s.Faultless ∧ ∃ path defect, s.inspect.result = .error (.rejected path defect)) ∧
      ((∃ surface, Finds options tree surface) ∨
        (∀ surface, ¬ Finds options tree surface) ∧
          ∃ result message, run options tree = .ok result ∧ Refusal options message ∧
            result.exitCode = 1 ∧ result.complaint = some ("Error: " ++ message) ∧
            result.output = [] ∧ result.isDone = false ∧ result.tree = tree) := by
  refine ⟨fun _ _ hread => Value.short_of_read hread,
    fun _ _ _ hshort hread => (Descriptor.isDescriptor_of_ofValue hread).fits hshort,
    Descriptor.loaded_or_rejected hfits, hsound.found_or_rejected hcoherent, ?_⟩
  by_cases hfinds : ∃ surface, Finds options tree surface
  · exact .inl hfinds
  · rcases hpresents.found_or_failed with hfound | ⟨message, log, hrefusal, hrun⟩
    · exact absurd hfound hfinds
    · exact .inr ⟨not_exists.1 hfinds, _, message, hrun, hrefusal, rfl, rfl, rfl, rfl, rfl⟩

/-! ### A mill with a rule of its own -/

def millDocument (pattern replacement : String) : Value :=
  .record [("assembly", .text "Mill"),
    ("methods", .list [.record [("kind", .text "event"), ("namespace", .text "mill"),
      ("name", .text "Stop")]]),
    ("namespace_rules", .list [.record [("pattern", .text pattern),
      ("replacement", .text replacement)]])]

def millModule (pattern replacement : String) : Descriptor where
  assembly := .text "Mill"
  types := []
  methods := [{ kind := "event", space := .text "mill", owner := .text "", name := .text "Stop"
                parameters := [], returns := .text "void" }]
  rules := [{ pattern := .text pattern, replacement := .text replacement }]

def millSession (pattern replacement : String) : Session :=
  { modules := [millModule pattern replacement] }

def millText : String :=
  "\x7b\"assembly\": \"Mill\", \"methods\": [\x7b\"kind\": \"event\", \"namespace\": \"mill\", " ++
    "\"name\": \"Stop\"\x7d], \"namespace_rules\": [\x7b\"pattern\": \"(\", \"replacement\": " ++
    "\"\"\x7d]\x7d"

def millTree (text : String) : FileTree :=
  { files := [(["mill.json"], text)] }

def millOptions : CommandLine.Options :=
  { modules := ["mill.json"] }

/-- A mill with something else in the place of a list. -/
def nullText : String :=
  "\x7b\"assembly\": \"Mill\", \"methods\": null\x7d"

theorem ofValue_mill (pattern replacement source : String) :
    Descriptor.ofValue (millDocument pattern replacement) source =
      .ok (millModule pattern replacement) := by
  rfl

theorem read_millTree : (millTree millText).read "mill.json" = .ok millText := by
  decide +kernel

theorem read_millText : Value.read millText = .ok (millDocument "(" "") := by
  decide +kernel

theorem readModule_mill :
    Session.readModule (millTree millText) "mill.json" = .ok (millModule "(" "") :=
  CommandLine.readModule_of_read read_millTree read_millText

theorem fits_mill : (millDocument "(" "").Fits :=
  (Descriptor.isDescriptor_of_ofValue (ofValue_mill "(" "" "")).fits (Value.short_of_read read_millText)

theorem sound_millModule : (millModule "(" "").Sound where
  texts := by
    constructor
    · intro decl hdecl
      cases List.mem_singleton.1 hdecl
      exact ⟨rfl, fun _ => rfl, rfl, fun _ hmem => (nomatch hmem), rfl⟩
    · exact fun _ hmem => nomatch hmem
  rules := by
    intro rule hrule
    cases List.mem_singleton.1 hrule
    exact ⟨"(", rfl, .inl (by cbv)⟩
  assembly := .text "Mill"
  names := fun _ hmem => nomatch hmem

theorem sound_millSession : (millSession "(" "").Sound :=
  (Session.sound_start "").addModule sound_millModule

theorem readable_mill : CommandLine.Readable (millTree millText) "mill.json" where
  reads := ⟨_, read_millTree, .inr ⟨_, read_millText, fits_mill⟩⟩
  texts := by
    intro module hread
    rw [readModule_mill] at hread
    cases hread
    exact sound_millModule.texts
  rules := by
    intro module hread
    rw [readModule_mill] at hread
    cases hread
    exact sound_millModule.rules

theorem presents_mill : CommandLine.Presents millOptions (millTree millText) where
  modules := List.forall_mem_singleton.2 readable_mill
  rules := fun _ hmem => nomatch hmem
  ignores := ⟨[], rfl⟩
  paths := ⟨_, rfl⟩

theorem inspect_mill :
    (millSession "(" "").inspect.result = .error (.rejected [] (.invalidPattern "(")) := by
  decide +kernel

theorem loadAll_mill :
    CommandLine.loadAll (millTree millText) millOptions.modules { entryName := millOptions.entry } =
      .ok (millSession "(" "") := by
  refine Outcome.bind_eq_ok_iff.2 ⟨(millModule "(" "", millSession "(" ""), ?_, rfl⟩
  exact Outcome.bind_eq_ok_iff.2 ⟨_, readModule_mill, rfl⟩

theorem not_finds_mill (surface : Surface) :
    ¬ CommandLine.Finds millOptions (millTree millText) surface := by
  rintro ⟨loaded, ruled, names, hload, hadded, hnames, hsurface⟩
  rw [loadAll_mill] at hload
  cases hload
  cases hadded
  cases hnames
  have hfails := inspect_mill.symm.trans hsurface
  cases hfails

theorem coherent_millSession (pattern replacement : String) : (millSession pattern replacement).Coherent :=
  Session.coherent_of_surface_eq_none rfl

/-- The mill is loaded, but its rule is refused, so a run ends with exit code 1. -/
theorem rejects_mill :
    (millDocument "(" "").Fits ∧ (millSession "(" "").Sound ∧ (millSession "(" "").Coherent ∧
      CommandLine.Presents millOptions (millTree millText) ∧
      (millDocument "(" "").IsDescriptor "mill.json" ∧ ¬ (millSession "(" "").Faultless ∧
      ∃ result message, CommandLine.run millOptions (millTree millText) = .ok result ∧
        result.exitCode = 1 ∧ result.complaint = some ("Error: " ++ message) := by
  obtain ⟨-, -, hload, hinspect, hrun⟩ := succeeds_or_rejects (fits_mill) sound_millSession
    (coherent_millSession "(" "") presents_mill
  refine ⟨fits_mill, sound_millSession, coherent_millSession "(" "", presents_mill, ?_, ?_, ?_⟩
  · rcases hload "mill.json" with ⟨hdescriptor, -⟩ | ⟨-, path, defect, hrejected⟩
    · exact hdescriptor
    · rw [ofValue_mill] at hrejected
      cases hrejected
  · rcases hinspect with ⟨-, surface, hfound⟩ | ⟨hfaulty, -⟩
    · rw [inspect_mill] at hfound
      cases hfound
    · exact hfaulty
  · rcases hrun with ⟨surface, hfinds⟩ | ⟨-, result, message, hrun, -, hcode, hcomplaint, -⟩
    · exact absurd hfinds (not_finds_mill surface)
    · exact ⟨result, message, hrun, hcode, hcomplaint⟩

theorem read_nullTree : (millTree nullText).read "mill.json" = .ok nullText := by
  decide +kernel

theorem read_nullText :
    Value.read nullText = .ok (.record [("assembly", .text "Mill"), ("methods", .null)]) := by
  decide +kernel

theorem run_nullText : CommandLine.run millOptions (millTree nullText) = .error .notIterable := by
  have hread : Session.readModule (millTree nullText) "mill.json" =
      .error (.error (.misused .notIterable)) :=
    CommandLine.readModule_of_read read_nullTree read_nullText
  have hload : CommandLine.loadAll (millTree nullText) millOptions.modules
      { entryName := millOptions.entry } = .error (.error (.misused .notIterable)) := by
    refine Outcome.bind_eq_error_iff.2 (.inl ?_)
    exact Outcome.bind_eq_error_iff.2 (.inl hread)
  unfold CommandLine.run
  rw [hload]
  rfl

/-- No defect is reported of a list that is null, of an infinite value of an item, or of a replacement that
names no group of its pattern. A run on such a list says nothing either. -/
theorem misuses_mill :
    Descriptor.ofValue (.record [("assembly", .text "Mill"), ("methods", .null)]) "" =
        .error (.misused .notIterable) ∧
      Descriptor.ofValue (.record [("assembly", .text "Mill"),
          ("types", .list [.record [("kind", .text "enum"), ("name", .text "Grain"),
            ("items", .list [.record [("name", .text "Rye"),
              ("value", .double (.infinite false))]])]])]) "" =
        .error (.misused .infiniteNumber) ∧
      (millSession "mill" "$\x7bstone\x7d").inspect.result = .error (.misused .unknownGroup) ∧
      CommandLine.run millOptions (millTree nullText) = .error .notIterable :=
  ⟨rfl, rfl, by decide +kernel, run_nullText⟩

end ScriptBridge
