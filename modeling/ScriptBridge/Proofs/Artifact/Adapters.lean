import ScriptBridge.Proofs.Artifact.Totality
import ScriptBridge.Proofs.Surface.Reach

/-!
# The adapters of methods

An adapter applies a conversion to just the values whose types are serialized. Its result is awaited if
the method returns a task itself; a task that may be absent is not waited for.
-/

namespace ScriptBridge

/-- A value that crosses the boundary: a function is applied to it if its type is serialized. -/
def TypeRef.crossing (ref : TypeRef) (convert value : String) : String :=
  if ref.isSerialized then convert ++ "(" ++ value ++ ")" else value

theorem TypeRef.isSerialized_stripNullable : ∀ ref : TypeRef,
    ref.stripNullable.isSerialized = ref.isSerialized
  | .nullable inner => by
    rw [stripNullable, isSerialized]
    exact isSerialized_stripNullable inner
  | .primitive .. | .array .. | .map .. | .generic .. | .custom _ | .task | .taskOf _
  | .parameter _ | .unknown .. => rfl

namespace Method

def parameterText (method : Method) : String :=
  String.intercalate ", " (method.arguments.map (·.scriptName.display))

/-- A call, up to its opening bracket, with the arguments of a method as they cross the boundary. -/
def callText (method : Method) (convert opening : String) : String :=
  opening ++ String.intercalate ", " (method.arguments.map fun argument =>
    argument.type.crossing convert argument.scriptName.display) ++ ")"

/-- An adapter whose result is that of the call, as it crosses the boundary. -/
def plainAdapter (method : Method) (convert call : String) : String :=
  "(" ++ method.parameterText ++ ") => " ++ method.returns.crossing convert call

/-- An adapter that waits for the result of the call first. -/
def asyncAdapter (method : Method) (convert call : String) : String :=
  "async (" ++ method.parameterText ++ ") => " ++ method.returns.crossing convert ("await " ++ call)

/-- The texts of the entries of a method, with some adapter. -/
def entryTexts (method : Method) (adapter : String → String → String) : List String :=
  let name := method.scriptName
  match method.kind with
  | .invokable =>
    let call := method.callText "serialize"
      ("getExports()." ++ method.accessor ++ "." ++ method.name ++ "(")
    [name ++ ": " ++ adapter "deserialize" call]
  | .function =>
    let call := method.callText "deserialize" ("this." ++ name ++ "Handler(")
    ["get " ++ name ++ "() \x7b return this." ++ name ++ "Handler; \x7d",
      "set " ++ name ++ "(handler) \x7b this." ++ name ++ "Handler = handler; this." ++ name ++
        "SerializedHandler = " ++ adapter "serialize" call ++ "; \x7d",
      "get " ++ name ++ "Serialized() \x7b if (typeof this." ++ name ++
        "Handler !== \"function\") throw Error(\"Failed to invoke '" ++ method.scriptPath ++
        "' from C#. Make sure to assign function in JavaScript.\"); return this." ++ name ++
        "SerializedHandler; \x7d"]
  | .event =>
    let call := method.callText "deserialize" (method.scriptPath ++ ".broadcast(")
    [name ++ ": new Event()",
      name ++ "Serialized: (" ++ method.parameterText ++ ") => " ++ call]

/-- The result is awaited if it is a task and serialized. -/
def Awaits (method : Method) : Prop :=
  method.returns.isSerialized = true ∧ method.returns.isAsync = true

section Texts

variable {method : Method} {entries : List BindingEntry}

/-- The parameters that an adapter of a method has. -/
def passed (method : Method) : List Passed :=
  method.arguments.map Passed.ofArgument

theorem parameterText_passed (method : Method) :
    Adapter.parameterText method.passed = method.parameterText := by
  rw [Adapter.parameterText, passed, List.map_map]
  rfl

theorem argumentText_passed (method : Method) (convert : String) :
    Adapter.argumentText convert method.passed =
      String.intercalate ", " (method.arguments.map fun argument =>
        argument.type.crossing convert argument.scriptName.display) := by
  rw [Adapter.argumentText, passed, List.map_map]
  rfl

theorem text_of_awaits (hawaits : method.Awaits) (convert call : String) :
    Adapter.text { parameters := method.passed, result := method.resultHandling } convert call =
      method.asyncAdapter convert call := by
  obtain ⟨hserialized, hasync⟩ := hawaits
  have hresult : method.resultHandling = .awaited := by
    simp [resultHandling, hserialized, hasync]
  have hstart : "async (" = "async " ++ "(" := rfl
  have hawait : "(await " = "(" ++ "await " := rfl
  unfold Adapter.text asyncAdapter
  rw [hresult, parameterText_passed, TypeRef.crossing, if_pos hserialized, hstart, hawait]
  simp only [String.append_assoc]

theorem text_of_not_awaits (hawaits : ¬ method.Awaits) (convert call : String) :
    Adapter.text { parameters := method.passed, result := method.resultHandling } convert call =
      method.plainAdapter convert call := by
  unfold Adapter.text plainAdapter
  rw [parameterText_passed, TypeRef.crossing]
  by_cases hserialized : method.returns.isSerialized = true
  · have hasync : method.returns.isAsync = false := by
      simpa [Awaits, hserialized] using hawaits
    have hresult : method.resultHandling = .converted := by
      simp [resultHandling, hserialized, hasync]
    rw [hresult, if_pos hserialized]
    simp only [String.append_assoc]
  · have hresult : method.resultHandling = .asIs := by
      simp [resultHandling, hserialized]
    rw [hresult, if_neg hserialized]

theorem entryTexts_of_adapter {adapter : String → String → String}
    (hmade : method.bindingEntries = .ok entries)
    (hadapter : ∀ convert call,
      Adapter.text { parameters := method.passed, result := method.resultHandling } convert call =
        adapter convert call) :
    entries.map (·.text) = method.entryTexts adapter := by
  obtain ⟨-, -, hentries⟩ := Outcome.bind_eq_ok_iff.1 hmade
  cases hentries
  unfold entryTexts callText
  rw [← passed]
  -- The equations of `BindingEntry.text` are slow to derive, so it is unfolded by its definition.
  cases method.kind with
  | invokable =>
    simp only [List.map_cons, List.map_nil]
    unfold BindingEntry.text
    simp only [hadapter, argumentText_passed]
  | function =>
    simp only [List.map_cons, List.map_nil]
    unfold BindingEntry.text
    simp only [hadapter, argumentText_passed]
  | event =>
    simp only [List.map_cons, List.map_nil]
    unfold BindingEntry.text
    simp only [parameterText_passed, argumentText_passed, String.append_assoc]

/-- The entries of a method have the asynchronous adapter if it awaits, and the plain one if not. -/
theorem texts_eq (hmade : method.bindingEntries = .ok entries) :
    (method.Awaits → entries.map (·.text) = method.entryTexts method.asyncAdapter) ∧
      (¬ method.Awaits → entries.map (·.text) = method.entryTexts method.plainAdapter) := by
  constructor
  · intro hawaits
    exact entryTexts_of_adapter hmade (text_of_awaits hawaits)
  · intro hawaits
    exact entryTexts_of_adapter hmade (text_of_not_awaits hawaits)

theorem asyncAdapter_ne_plainAdapter (method : Method) (convert call : String) :
    method.asyncAdapter convert call ≠ method.plainAdapter convert call := by
  unfold asyncAdapter plainAdapter
  intro heq
  have hfirst := congrArg (fun text => text.toList.head?) heq
  simp only [String.toList_append, List.append_assoc] at hfirst
  have hletter : "async (".toList = 'a' :: "sync (".toList := rfl
  have hbracket : "(".toList = ['('] := rfl
  rw [hletter, hbracket, List.cons_append, List.cons_append, List.head?_cons, List.head?_cons] at hfirst
  cases hfirst

theorem entryTexts_async_ne_plain (hkind : method.kind ≠ .event) :
    method.entryTexts method.asyncAdapter ≠ method.entryTexts method.plainAdapter := by
  unfold entryTexts
  cases hmethod : method.kind with
  | event => exact absurd hmethod hkind
  | invokable =>
    intro heq
    have hentry := (List.cons.inj heq).1
    exact asyncAdapter_ne_plainAdapter method _ _ ((String.append_right_inj _).1 hentry)
  | function =>
    intro heq
    have hsetter := (List.cons.inj (List.cons.inj heq).2).1
    rw [String.append_left_inj, String.append_right_inj] at hsetter
    exact asyncAdapter_ne_plainAdapter method _ _ hsetter

end Texts

/-! ### Tasks that may be absent -/

section Tasks

theorem awaits_iff_of_task {method : Method} {inner : TypeRef}
    (htask : method.returns.stripNullable = .taskOf inner)
    (hserialized : inner.isSerialized = true) :
    method.Awaits ↔ method.returns.isNullable = false := by
  have hreturns : method.returns.isSerialized = true := by
    rw [← TypeRef.isSerialized_stripNullable, htask, TypeRef.isSerialized, hserialized]
  unfold Awaits
  cases hreturn : method.returns with
  | nullable other =>
    exact iff_of_false (fun hawaits => Bool.false_ne_true hawaits.2) Bool.false_ne_true.symm
  | taskOf other =>
    rw [hreturn] at hreturns
    exact iff_of_true ⟨hreturns, rfl⟩ rfl
  | _ =>
    rw [hreturn] at htask
    cases htask

theorem not_awaits_of_not_task {method : Method}
    (htask : method.returns.stripNullable.isAsync = false) :
    ¬ method.Awaits := by
  rintro ⟨-, hasync⟩
  cases hreturn : method.returns with
  | task =>
    rw [hreturn] at htask
    cases htask
  | taskOf other =>
    rw [hreturn] at htask
    cases htask
  | _ =>
    rw [hreturn] at hasync
    cases hasync

/-- A method that returns a task of a serialized value, be it absent or not, has the asynchronous adapter
just if the task cannot be absent. One that returns no task has the plain adapter. -/
theorem awaited_iff_not_nullable (method : Method) (hkind : method.kind ≠ .event) :
    (∀ entries, method.bindingEntries = .ok entries →
        (∀ inner, method.returns.stripNullable = .taskOf inner → inner.isSerialized = true →
          (entries.map (·.text) = method.entryTexts method.asyncAdapter ↔
            method.returns.isNullable = false) ∧
          (method.returns.isNullable = true →
            entries.map (·.text) = method.entryTexts method.plainAdapter)) ∧
        (method.returns.stripNullable.isAsync = false →
          entries.map (·.text) = method.entryTexts method.plainAdapter)) ∧
      ((∀ argument ∈ method.arguments, argument.scriptName.isText = true) →
        ∃ entries, method.bindingEntries = .ok entries) := by
  refine ⟨fun entries hmade => ⟨fun inner htask hserialized => ?_, fun htask => ?_⟩,
    exists_bindingEntries_iff.2⟩
  · have hawaits := awaits_iff_of_task htask hserialized
    have htexts := texts_eq hmade
    refine ⟨⟨fun hasync => ?_, fun hpresent => htexts.1 (hawaits.2 hpresent)⟩, fun habsent => ?_⟩
    · by_contra habsent
      have hplain := htexts.2 fun hawait => habsent (hawaits.1 hawait)
      exact entryTexts_async_ne_plain hkind (hasync.symm.trans hplain)
    · refine htexts.2 fun hawait => ?_
      rw [hawaits.1 hawait] at habsent
      cases habsent
  · exact (texts_eq hmade).2 (not_awaits_of_not_task htask)

end Tasks

end Method

/-- The head of the list is waited for. -/
theorem awaited_list_head :
    (listInspector.inspect [listModule]).result = .ok listSurface ∧
      headMethod ∈ listSurface.methods ∧ headMethod.kind ≠ .event ∧
      ∃ inner entries, headMethod.returns.stripNullable = .taskOf inner ∧
        inner.isSerialized = true ∧ headMethod.bindingEntries = .ok entries ∧
        entries.map (·.text) = headMethod.entryTexts headMethod.asyncAdapter := by
  have hkind : headMethod.kind ≠ .event := by decide
  obtain ⟨hawaited, hmade⟩ := Method.awaited_iff_not_nullable headMethod hkind
  obtain ⟨entries, hentries⟩ := hmade (by decide)
  have hasync := ((hawaited entries hentries).1 _ rfl rfl).1.2 rfl
  exact ⟨inspect_listModule, by decide, hkind, _, entries, rfl, rfl, hentries, hasync⟩

/-- What is looked for in the list is a task of a serialized value, and registered in its paired form, but
it is not waited for. -/
theorem not_awaited_list_find :
    (listInspector.inspect [listModule]).result = .ok listSurface ∧
      findMethod ∈ listSurface.methods ∧ findMethod.kind = .invokable ∧
      ∃ inner entries, findMethod.returns.stripNullable = .taskOf inner ∧
        inner.isSerialized = true ∧
        Registration.paired (Registration.render listSurface inner) ∈
          Registration.ofSurface listSurface ∧
        findMethod.bindingEntries = .ok entries ∧
        entries.map (·.text) ≠ findMethod.entryTexts findMethod.asyncAdapter := by
  have hnamed : ∀ argument ∈ findMethod.arguments, argument.scriptName.isText = true := by decide
  obtain ⟨entries, hentries⟩ := Method.exists_bindingEntries_iff.2 hnamed
  have hawaits : ¬ findMethod.Awaits := fun hawaits => Bool.false_ne_true hawaits.2
  have hplain := (Method.texts_eq hentries).2 hawaits
  refine ⟨inspect_listModule, by decide, rfl, _, entries, rfl, rfl, ?_, hentries, ?_⟩
  · decide +kernel
  · rw [hplain]
    exact (Method.entryTexts_async_ne_plain (by decide)).symm

end ScriptBridge
