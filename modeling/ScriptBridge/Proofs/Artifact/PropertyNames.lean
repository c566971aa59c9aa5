import ScriptBridge.Artifact.Bindings
import ScriptBridge.Proofs.Surface.Selection

/-!
# Names of properties

Beside the property of its name, a function and an event have properties of names made from it. The
methods of one side of a namespace have distinct names, but nothing keeps a name from being like a name
that another method's is made into. There is no other way for two methods to share a property.
-/

namespace ScriptBridge

/-- The properties of its object that an entry defines or assigns. -/
def BindingEntry.properties : BindingEntry → List String
  | .invokable name _ _ _ => [name]
  | .handler name => [name]
  | .assignment name _ => [name, name ++ "Handler", name ++ "SerializedHandler"]
  | .serializedHandler name _ => [name ++ "Serialized"]
  | .event name => [name]
  | .broadcast name _ _ => [name ++ "Serialized"]
  | .lookup name _ => [name]

/-- What the name of a method is followed by in the names of its other properties. -/
def MethodKind.suffixes : MethodKind → List String
  | .invokable => []
  | .function => ["Serialized", "Handler", "SerializedHandler"]
  | .event => ["Serialized"]

namespace Method

def derivedNames (method : Method) : List String :=
  method.kind.suffixes.map (method.scriptName ++ ·)

def properties (method : Method) : List String :=
  method.scriptName :: method.derivedNames

variable {method other : Method}

/-- The entries of a method define and assign its properties, and no others. -/
theorem mem_properties_iff {entries : List BindingEntry} (hmade : method.bindingEntries = .ok entries)
    {name : String} :
    (∃ entry ∈ entries, name ∈ entry.properties) ↔ name ∈ method.properties := by
  obtain ⟨parameters, -, hentries⟩ := Outcome.bind_eq_ok_iff.1 hmade
  cases hentries
  unfold properties derivedNames
  cases method.kind <;>
    simp [BindingEntry.properties, MethodKind.suffixes, or_left_comm, or_comm]

/-! ### Derived names -/

/-- Every method with derived names has one that ends in `Serialized`. -/
theorem suffix_cases {kind : MethodKind} {suffix : String} (hsuffix : suffix ∈ kind.suffixes) :
    "Serialized" ∈ kind.suffixes ∧
      (suffix = "Serialized" ∨ suffix = "Handler" ∨ suffix = "SerializedHandler") := by
  cases kind with
  | invokable => cases hsuffix
  | function => exact ⟨by decide, by simpa [MethodKind.suffixes] using hsuffix⟩
  | event => exact ⟨by decide, .inl (by simpa [MethodKind.suffixes] using hsuffix)⟩

theorem append_serialized_ne_append_handler (a b : String) : a ++ "Serialized" ≠ b ++ "Handler" := by
  intro heq
  have hlast := congrArg (fun text : String => text.toList.getLast?) heq
  simp at hlast

theorem append_serializedHandler (a : String) :
    a ++ "SerializedHandler" = a ++ "Serialized" ++ "Handler" := by
  rw [String.append_assoc]
  rfl

/-- If what is derived from different names is one name, then one of them is derived from the other. -/
theorem mem_derivedNames_of_append_eq {suffix otherSuffix : String}
    (hne : method.scriptName ≠ other.scriptName) (hsuffix : suffix ∈ method.kind.suffixes)
    (hother : otherSuffix ∈ other.kind.suffixes)
    (heq : method.scriptName ++ suffix = other.scriptName ++ otherSuffix) :
    method.scriptName ∈ other.derivedNames ∨ other.scriptName ∈ method.derivedNames := by
  obtain ⟨hserialized, hcases⟩ := suffix_cases hsuffix
  obtain ⟨hotherSerialized, hotherCases⟩ := suffix_cases hother
  rcases hcases with rfl | rfl | rfl <;> rcases hotherCases with rfl | rfl | rfl
  · exact absurd (String.append_left_inj _ |>.1 heq) hne
  · exact absurd heq (append_serialized_ne_append_handler _ _)
  · rw [append_serializedHandler] at heq
    exact absurd heq (append_serialized_ne_append_handler _ _)
  · exact absurd heq.symm (append_serialized_ne_append_handler _ _)
  · exact absurd (String.append_left_inj _ |>.1 heq) hne
  · rw [append_serializedHandler, String.append_left_inj] at heq
    exact .inl (List.mem_map.2 ⟨"Serialized", hotherSerialized, heq.symm⟩)
  · rw [append_serializedHandler] at heq
    exact absurd heq.symm (append_serialized_ne_append_handler _ _)
  · rw [append_serializedHandler, String.append_left_inj] at heq
    exact .inr (List.mem_map.2 ⟨"Serialized", hserialized, heq⟩)
  · exact absurd (String.append_left_inj _ |>.1 heq) hne

/-- Methods of different names share a property just where the name of one is derived from that of the
other. -/
theorem disjoint_properties_iff (hne : method.scriptName ≠ other.scriptName) :
    method.properties.Disjoint other.properties ↔
      method.scriptName ∉ other.derivedNames ∧ other.scriptName ∉ method.derivedNames := by
  unfold properties
  constructor
  · intro hdisjoint
    refine ⟨fun hmem => ?_, fun hmem => ?_⟩
    · exact hdisjoint List.mem_cons_self (List.mem_cons_of_mem _ hmem)
    · exact hdisjoint (List.mem_cons_of_mem _ hmem) List.mem_cons_self
  · rintro ⟨hmethod, hother⟩ name hname hotherName
    rcases List.mem_cons.1 hname with rfl | hname <;>
      rcases List.mem_cons.1 hotherName with hsame | hotherName
    · exact hne hsame
    · exact hmethod hotherName
    · exact hother (hsame ▸ hname)
    · obtain ⟨suffix, hsuffix, rfl⟩ := List.mem_map.1 hname
      obtain ⟨otherSuffix, hotherSuffix, heq⟩ := List.mem_map.1 hotherName
      exact (mem_derivedNames_of_append_eq hne hsuffix hotherSuffix heq.symm).elim hmethod hother

end Method

/-! ### Methods of a surface -/

/-- The methods of one side of a namespace have distinct names. Two of them share a property if and only
if the name of one is derived from that of the other, which invokables never do. -/
theorem disjoint_properties_of_inspect {inspector : Inspector} {modules : List Descriptor}
    {surface : Surface} (hinspect : (inspector.inspect modules).result = .ok surface) :
    (∀ method ∈ surface.methods, ∀ entries, method.bindingEntries = .ok entries → ∀ name,
      (∃ entry ∈ entries, name ∈ entry.properties) ↔ name ∈ method.properties) ∧
    surface.methods.Pairwise fun method other =>
      method.scriptSpace = other.scriptSpace → method.kind.isExport = other.kind.isExport →
        method.scriptName ≠ other.scriptName ∧
          (method.properties.Disjoint other.properties ↔
            method.scriptName ∉ other.derivedNames ∧ other.scriptName ∉ method.derivedNames) ∧
          (method.kind.isExport = true → method.properties.Disjoint other.properties) := by
  refine ⟨fun _ _ _ hmade _ => Method.mem_properties_iff hmade, ?_⟩
  refine (List.pairwise_map.1 (nodup_targets_of_inspect hinspect)).imp ?_
  intro method other htarget hspace hside
  have hne : method.scriptName ≠ other.scriptName := by
    intro hname
    exact htarget (by rw [Method.target, Method.target, hspace, hside, hname])
  refine ⟨hne, Method.disjoint_properties_iff hne, fun hexport => ?_⟩
  have hnone : ∀ invoked : Method, invoked.kind.isExport = true → invoked.derivedNames = [] := by
    intro invoked hinvoked
    unfold Method.derivedNames
    cases hkind : invoked.kind with
    | invokable => rfl
    | function => simp [hkind, MethodKind.isExport] at hinvoked
    | event => simp [hkind, MethodKind.isExport] at hinvoked
  rw [Method.disjoint_properties_iff hne, hnone method hexport, hnone other (hside ▸ hexport)]
  exact ⟨List.not_mem_nil, List.not_mem_nil⟩

/-! ### Ready, steady -/

def signalDecl (kind name : String) : MethodDecl where
  kind
  space := .text "signals"
  owner := .text "Signals"
  name := .text name
  parameters := []
  returns := .text "void"

def signalsModule : Descriptor where
  assembly := .text "Signals"
  methods :=
    [signalDecl "function" "Ready", signalDecl "event" "ReadySerialized",
      signalDecl "function" "Steady"]

def signalsInspector : Inspector where
  resolver := { rules := [] }

def signalMethod (kind : MethodKind) (name scriptName : String) : Method where
  kind
  assembly := .text "Signals"
  owner := .text "Signals"
  space := "signals"
  scriptSpace := "signals"
  name
  scriptName
  arguments := []
  returns := .primitive .void "System.Void"

def readyMethod : Method := signalMethod .function "Ready" "ready"

def readySerializedMethod : Method := signalMethod .event "ReadySerialized" "readySerialized"

def steadyMethod : Method := signalMethod .function "Steady" "steady"

def signalsSurface : Surface where
  methods := [readyMethod, readySerializedMethod, steadyMethod]
  namespaces := ["signals"]

theorem inspect_signalsModule :
    (signalsInspector.inspect [signalsModule]).result = .ok signalsSurface := by
  cbv

/-- An event is called what a function has its adapter under. Both are taken, and both define the
property. -/
theorem readySerialized_defined_twice :
    (signalsInspector.inspect [signalsModule]).result = .ok signalsSurface ∧
      readyMethod ∈ signalsSurface.methods ∧ readySerializedMethod ∈ signalsSurface.methods ∧
      readyMethod ≠ readySerializedMethod ∧
      readyMethod.scriptSpace = readySerializedMethod.scriptSpace ∧
      readyMethod.kind.isExport = readySerializedMethod.kind.isExport ∧
      (∃ entries, readyMethod.bindingEntries = .ok entries ∧
        ∃ entry ∈ entries, "readySerialized" ∈ entry.properties) ∧
      ∃ entries, readySerializedMethod.bindingEntries = .ok entries ∧
        ∃ entry ∈ entries, "readySerialized" ∈ entry.properties := by
  refine ⟨inspect_signalsModule, by simp [signalsSurface], by simp [signalsSurface], by decide, rfl, rfl,
    ⟨_, rfl, .serializedHandler "ready" "signals.ready", by decide, by decide⟩,
    ⟨_, rfl, .event "readySerialized", by decide, by decide⟩⟩

/-- The two functions do not get into each other's way. -/
theorem disjoint_ready_steady :
    (signalsInspector.inspect [signalsModule]).result = .ok signalsSurface ∧
      readyMethod.properties.Disjoint steadyMethod.properties := by
  obtain ⟨-, hpairs⟩ := disjoint_properties_of_inspect inspect_signalsModule
  obtain ⟨hfirst, -⟩ := List.pairwise_cons.1 hpairs
  obtain ⟨-, hdisjoint, -⟩ := hfirst steadyMethod (by simp) rfl rfl
  exact ⟨inspect_signalsModule, hdisjoint.2 (by decide)⟩

end ScriptBridge
