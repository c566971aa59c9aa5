import Mathlib.Data.List.Nodup
import ScriptBridge.Proofs.Artifact.Markers
import ScriptBridge.Proofs.Surface.Selection

/-!
# Names of parameters

No parameter of a binding has a reserved name. A reserved name gives way to a substitute, whatever the
other parameters are called, so two parameters have one name just where an argument is called what
another one's name gives way to.
-/

namespace ScriptBridge

/-! ### Substitutes -/

namespace Naming

variable {name other : String} {names : List String}

theorem parameterName_of_not_reserved (hname : name ∉ reserved) : parameterName name = name := by
  have hfunction : (name == "function") = false := by
    refine beq_false_of_ne fun heq => hname ?_
    rw [heq]
    decide
  rw [parameterName, hfunction, if_neg Bool.false_ne_true, if_neg (by simpa using hname)]

/-- What a reserved name gives way to is not reserved. -/
theorem parameterName_not_reserved (name : String) : parameterName name ∉ reserved := by
  by_cases hname : name ∈ reserved
  · have hall : ∀ word ∈ reserved, parameterName word ∉ reserved := by decide
    exact hall name hname
  · rwa [parameterName_of_not_reserved hname]

/-- Different reserved names give way to different ones. -/
theorem eq_of_parameterName_eq (hname : name ∈ reserved) (hother : other ∈ reserved)
    (heq : parameterName name = parameterName other) : name = other := by
  have hall : (reserved.map parameterName).Nodup := by decide
  exact List.inj_on_of_nodup_map hall hname hother heq

/-- Distinct names stay distinct, unless one is what another gives way to. -/
theorem nodup_map_parameterName_iff (hnames : names.Nodup) :
    (names.map parameterName).Nodup ↔
      ∀ name ∈ names, name ∈ reserved → parameterName name ∉ names := by
  constructor
  · intro hdistinct name hname hreserved hsubstitute
    have hfree := parameterName_not_reserved name
    have hsame := List.inj_on_of_nodup_map hdistinct hname hsubstitute
      (parameterName_of_not_reserved hfree).symm
    rw [← hsame] at hfree
    exact hfree hreserved
  · intro hapart
    refine hnames.map_on fun name hname other hother heq => ?_
    by_cases hreserved : name ∈ reserved <;> by_cases hotherReserved : other ∈ reserved
    · exact eq_of_parameterName_eq hreserved hotherReserved heq
    · rw [parameterName_of_not_reserved hotherReserved] at heq
      exact absurd (heq ▸ hother) (hapart name hname hreserved)
    · rw [parameterName_of_not_reserved hreserved] at heq
      exact absurd (heq ▸ hname) (hapart other hother hotherReserved)
    · rwa [parameterName_of_not_reserved hreserved, parameterName_of_not_reserved hotherReserved]
        at heq

end Naming

/-! ### Arrow functions -/

/-- The parameters of the arrow function that an entry holds, if it holds one. -/
def BindingEntry.parameters? : BindingEntry → Option (List Passed)
  | .invokable _ _ _ adapter => some adapter.parameters
  | .assignment _ adapter => some adapter.parameters
  | .broadcast _ _ parameters => some parameters
  | .handler _ | .serializedHandler .. | .event _ | .lookup .. => none

/-- How an arrow function of some parameters begins. -/
def arrowStart (names : List String) : String :=
  "(" ++ String.intercalate ", " names ++ ") => "

section Arrows

variable {parameters : List Passed} {method : Method} {entries : List BindingEntry}

theorem within_adapter (adapter : Adapter) (convert call : String) :
    Text.Within (arrowStart (adapter.parameters.map (·.name))) (adapter.text convert call) := by
  unfold Adapter.text
  cases adapter.result with
  | asIs => exact (Text.Within.refl _).append_right call
  | converted =>
    exact (((Text.Within.refl _).append_right convert).append_right "(").append_right call
      |>.append_right ")"
  | awaited =>
    exact (((Text.Within.refl _).append_left "async ").append_right convert).append_right "(await "
      |>.append_right call |>.append_right ")"

/-- The arrow function of an entry is written in its text. -/
theorem within_entry {entry : BindingEntry} (hparameters : entry.parameters? = some parameters) :
    Text.Within (arrowStart (parameters.map (·.name))) entry.text := by
  unfold BindingEntry.text
  cases entry with
  | invokable name accessor method adapter =>
    cases hparameters
    exact (within_adapter adapter _ _).append_left _
  | assignment name adapter =>
    cases hparameters
    exact ((within_adapter adapter _ _).append_left _).append_right "; \x7d"
  | broadcast name path parameters =>
    cases hparameters
    refine ⟨name ++ "Serialized: ", path ++ ".broadcast(" ++
      Adapter.argumentText "deserialize" parameters ++ ")", ?_⟩
    have hopening : "Serialized: (" = "Serialized: " ++ "(" := rfl
    simp only [arrowStart, Adapter.parameterText, hopening, String.append_assoc]
  | _ => cases hparameters

/-- Among the entries of a method there is one arrow function. -/
theorem filterMap_parameters (hmade : method.bindingEntries = .ok entries) :
    entries.filterMap BindingEntry.parameters? = [method.passed] := by
  obtain ⟨-, -, hentries⟩ := Outcome.bind_eq_ok_iff.1 hmade
  cases hentries
  cases method.kind <;> rfl

end Arrows

/-! ### Methods of a surface -/

/-- An argument whose name is a text has the name of a parameter in script. -/
def Argument.Renamed (argument : Argument) : Prop :=
  ∀ name, argument.name = .text name → argument.scriptName = .text (Naming.parameterName name)

theorem renamed_of_argumentsOf {registry : Registry} {space : String} {decls : List ParameterDecl}
    {arguments : List Argument} (harguments : argumentsOf registry space decls = .ok arguments) :
    ∀ argument ∈ arguments, argument.Renamed := by
  intro argument hargument
  obtain ⟨decl, -, hmade⟩ := Outcome.exists_of_mem_results harguments hargument
  obtain ⟨type, -, hmade⟩ := Outcome.bind_eq_ok_iff.1 hmade
  split at hmade
  · cases hmade
    rintro name ⟨⟩
    rfl
  · rename_i other hother
    split at hmade
    · cases hmade
      intro name hname
      exact absurd hname (hother name)
    · cases hmade

theorem renamed_of_inspect {inspector : Inspector} {modules : List Descriptor} {surface : Surface}
    (hinspect : (inspector.inspect modules).result = .ok surface) :
    ∀ method ∈ surface.methods, ∀ argument ∈ method.arguments, argument.Renamed := by
  intro method hmethod
  obtain ⟨_, -, space, scriptSpace, name, arguments, returns, -, -, -, harguments, -, rfl⟩ :=
    Outcome.exists_left_of_forall₂ (taken_of_inspect hinspect) hmethod
  exact renamed_of_argumentsOf harguments

/-- Arguments whose names are texts are called by texts in script, which are the names of parameters. -/
theorem map_scriptName_eq {arguments : List Argument} {names : List String}
    (hnames : arguments.map (·.name) = names.map .text)
    (hrenamed : ∀ argument ∈ arguments, argument.Renamed) :
    arguments.map (·.scriptName) = (names.map Naming.parameterName).map .text := by
  induction arguments generalizing names with
  | nil =>
    obtain rfl : names = [] := List.map_eq_nil_iff.1 hnames.symm
    rfl
  | cons argument arguments ih =>
    obtain ⟨name, names, rfl, hname, hnames⟩ := List.map_eq_cons_iff.1 hnames.symm
    obtain ⟨hfirst, hrest⟩ := List.forall_mem_cons.1 hrenamed
    rw [List.map_cons, List.map_cons, List.map_cons, hfirst name hname.symm, ih hnames.symm hrest]

/-- A method whose arguments have distinct names has an arrow function among its entries, with a
parameter for each argument. No parameter has a reserved name. Two of them have one name if and only if
an argument has a reserved name and another is called what that gives way to. -/
theorem parameters_of_inspect {inspector : Inspector} {modules : List Descriptor} {surface : Surface}
    (hinspect : (inspector.inspect modules).result = .ok surface) :
    ∀ method ∈ surface.methods, ∀ names : List String,
      method.arguments.map (·.name) = names.map .text → names.Nodup →
        ∃ entries parameters, method.bindingEntries = .ok entries ∧
          entries.filterMap BindingEntry.parameters? = [parameters] ∧
          (∀ entry ∈ entries, entry.parameters? = some parameters →
            Text.Within (arrowStart (parameters.map (·.name))) entry.text) ∧
          parameters.map (·.name) = names.map Naming.parameterName ∧
          (∀ parameter ∈ parameters, parameter.name ∉ Naming.reserved) ∧
          ((parameters.map (·.name)).Nodup ↔
            ∀ name ∈ names, name ∈ Naming.reserved → Naming.parameterName name ∉ names) := by
  intro method hmethod names hnames hdistinct
  have hscriptNames := map_scriptName_eq hnames (renamed_of_inspect hinspect method hmethod)
  have htexts : ∀ argument ∈ method.arguments, argument.scriptName.isText = true := by
    intro argument hargument
    have hmem : argument.scriptName ∈ (names.map Naming.parameterName).map Value.text :=
      hscriptNames ▸ List.mem_map_of_mem hargument
    obtain ⟨name, -, hname⟩ := List.mem_map.1 hmem
    rw [← hname]
    rfl
  have hsame : method.passed.map (·.name) = names.map Naming.parameterName := by
    have hshown := congrArg (List.map Value.display) hscriptNames
    rw [List.map_map, List.map_map] at hshown
    rw [Method.passed, List.map_map]
    exact hshown.trans (List.map_id _)
  obtain ⟨entries, hentries⟩ := Method.exists_bindingEntries_iff.2 htexts
  refine ⟨entries, method.passed, hentries, filterMap_parameters hentries,
    fun _ _ hentry => within_entry hentry, hsame, ?_, ?_⟩
  · intro parameter hparameter
    have hname : parameter.name ∈ names.map Naming.parameterName :=
      hsame ▸ List.mem_map_of_mem hparameter
    obtain ⟨name, -, heq⟩ := List.mem_map.1 hname
    exact heq ▸ Naming.parameterName_not_reserved name
  · rw [hsame]
    exact Naming.nodup_map_parameterName_iff hdistinct

/-! ### Classes at a school -/

def schoolDecl (kind name : String) (parameters : List String) : MethodDecl where
  kind
  space := .text "school"
  owner := .text "School"
  name := .text name
  parameters := parameters.map fun name => { name := .text name, type := .text "int" }
  returns := .text "void"

def schoolModule : Descriptor where
  assembly := .text "School"
  methods :=
    [schoolDecl "invokable" "Enrol" ["class", "new", "_class"],
      schoolDecl "event" "Moved" ["class", "class_"]]

def schoolInspector : Inspector where
  resolver := { rules := [] }

def schoolArgument (name scriptName : String) : Argument where
  name := .text name
  scriptName := .text scriptName
  type := .primitive .number "System.Int32"

def schoolMethod (kind : MethodKind) (name scriptName : String) (arguments : List Argument) :
    Method where
  kind
  assembly := .text "School"
  owner := .text "School"
  space := "school"
  scriptSpace := "school"
  name
  scriptName
  arguments
  returns := .primitive .void "System.Void"

def enrolMethod : Method :=
  schoolMethod .invokable "Enrol" "enrol"
    [schoolArgument "class" "class_", schoolArgument "new" "new_", schoolArgument "_class" "_class"]

def movedMethod : Method :=
  schoolMethod .event "Moved" "moved"
    [schoolArgument "class" "class_", schoolArgument "class_" "class_"]

def schoolSurface : Surface where
  methods := [enrolMethod, movedMethod]
  namespaces := ["school"]

theorem inspect_schoolModule :
    (schoolInspector.inspect [schoolModule]).result = .ok schoolSurface := by
  cbv

/-- Pupils are enrolled with parameters of different names. -/
theorem parameters_enrol :
    (schoolInspector.inspect [schoolModule]).result = .ok schoolSurface ∧
      enrolMethod ∈ schoolSurface.methods ∧ ["class", "new", "_class"].Nodup ∧
      ∃ entries parameters, enrolMethod.bindingEntries = .ok entries ∧
        entries.filterMap BindingEntry.parameters? = [parameters] ∧
        parameters.map (·.name) = ["class_", "new_", "_class"] ∧
        (parameters.map (·.name)).Nodup := by
  have hmethod : enrolMethod ∈ schoolSurface.methods := List.mem_cons_self
  have hdistinct : ["class", "new", "_class"].Nodup := by decide
  obtain ⟨entries, parameters, hentries, harrow, -, hsame, -, hnodup⟩ :=
    parameters_of_inspect inspect_schoolModule enrolMethod hmethod ["class", "new", "_class"] rfl
      hdistinct
  exact ⟨inspect_schoolModule, hmethod, hdistinct, entries, parameters, hentries, harrow, hsame,
    hnodup.2 (by decide)⟩

/-- A pupil who moves does so from one class to another, and both parameters have one name. -/
theorem moved_parameters_clash :
    (schoolInspector.inspect [schoolModule]).result = .ok schoolSurface ∧
      movedMethod ∈ schoolSurface.methods ∧
      movedMethod.arguments.map (·.name) = ["class", "class_"].map .text ∧
      ["class", "class_"].Nodup ∧
      ∃ entries parameters, movedMethod.bindingEntries = .ok entries ∧
        entries.filterMap BindingEntry.parameters? = [parameters] ∧
        parameters.map (·.name) = ["class_", "class_"] ∧
        "movedSerialized: (class_, class_) => school.moved.broadcast(class_, class_)" ∈
          entries.map (·.text) := by
  refine ⟨inspect_schoolModule, by simp [schoolSurface], rfl, by decide, _, _, rfl, rfl, rfl, ?_⟩
  decide +kernel

end ScriptBridge
