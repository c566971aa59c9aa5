import ScriptBridge.Proofs.Artifact.DeclaredTypes
import ScriptBridge.Proofs.Namespace.Canonical
import ScriptBridge.Proofs.Surface.Selection

/-!
# Paths that are written

A function and an event have an entry that writes the path of the method. The object of that entry stands
at the segments of the namespace, so the path leads there if the namespace is canonical.
-/

namespace ScriptBridge

open Namespace

/-- The name of the method that an entry writes the path of, with the path. -/
def BindingEntry.written? : BindingEntry → Option (String × String)
  | .serializedHandler name path => some (name, path)
  | .broadcast name path _ => some (name, path)
  | _ => none

section Entries

variable {surface : Surface} {path : List String} {entries : List BindingEntry}

/-- What is read off the entries of a path is what is read off the methods and the enumerations there. -/
theorem flatMap_entriesAt {γ : Type} {read : BindingEntry → List γ} {ofMethod : Method → List γ}
    {ofType : DeclaredType → List γ} (hmade : surface.entriesAt path = .ok entries)
    (hmethod : ∀ method entries, Method.bindingEntries method = .ok entries →
      entries.flatMap read = ofMethod method)
    (htype : ∀ type entries, DeclaredType.bindingEntries type = .ok entries →
      entries.flatMap read = ofType type) :
    entries.flatMap read =
      (surface.methodsAt path).flatMap ofMethod ++ (surface.enumerationsAt path).flatMap ofType := by
  obtain ⟨methodEntries, lookups, hmethods, hlookups, rfl⟩ := entriesAt_eq_ok_iff.1 hmade
  have hread : ∀ made : List (List BindingEntry),
      made.flatten.flatMap read = made.flatMap (·.flatMap read) := by
    intro made
    rw [← List.flatMap_id, List.flatMap_assoc]
    rfl
  rw [List.flatMap_append, hread, hread,
    Outcome.flatMap_eq_of_mapM hmethods fun method entries hmade => (hmethod method entries hmade).symm,
    Outcome.flatMap_eq_of_mapM hlookups fun type entries hmade => (htype type entries hmade).symm]

theorem written_of_method {method : Method} (hmade : method.bindingEntries = .ok entries) :
    entries.flatMap (·.written?.toList) =
      if method.kind.isExport then [] else [(method.scriptName, method.scriptPath)] := by
  obtain ⟨parameters, -, hentries⟩ := Outcome.bind_eq_ok_iff.1 hmade
  cases hentries
  cases method.kind <;> rfl

theorem written_of_type {type : DeclaredType} (hmade : type.bindingEntries = .ok entries) :
    entries.flatMap (·.written?.toList) = [] := by
  by_cases hkind : type.kind = .enumeration
  · obtain ⟨pairs, rfl⟩ := exists_lookup_of_bindingEntries hkind hmade
    rfl
  · rw [bindingEntries_of_object hkind] at hmade
    cases hmade
    rfl

/-- At a path the functions and the events there have their paths written, each once. -/
theorem written_entriesAt (hmade : surface.entriesAt path = .ok entries) :
    entries.filterMap BindingEntry.written? =
      ((surface.methodsAt path).filter (!·.kind.isExport)).map
        fun method => (method.scriptName, method.scriptPath) := by
  rw [List.filterMap_eq_flatMap_toList, flatMap_entriesAt hmade (fun _ _ => written_of_method)
    fun _ _ => written_of_type]
  have hnone : (surface.enumerationsAt path).flatMap (fun _ => ([] : List (String × String))) = [] := by
    simp
  rw [hnone, List.append_nil]
  induction surface.methodsAt path with
  | nil => rfl
  | cons method methods ih =>
    rw [List.flatMap_cons, List.filter_cons, ih]
    cases method.kind.isExport <;> rfl

end Entries

theorem segments_of_mem_methodsAt {surface : Surface} {path : List String} {method : Method}
    (hmethod : method ∈ surface.methodsAt path) : segments method.scriptSpace = path := by
  simpa using (List.mem_filter.1 hmethod).2

/-- The paths that are written in some binding objects are those of the functions and the events with
entries there. A path leads to its object unless two dots meet in the namespace of the method, and without
such dots the methods of an object are in one namespace. -/
structure Surface.PathsWritten (surface : Surface) (objects : List BindingObject) : Prop where
  written : ∀ path object, BindingObject.StandsAt objects path object →
    object.entries.filterMap BindingEntry.written? =
      ((surface.methodsAt path).filter (!·.kind.isExport)).map
        fun method => (method.scriptName, method.scriptPath)
  leads_iff : ∀ path, ∀ method ∈ surface.methodsAt path,
    Text.dotted (path ++ [method.scriptName]) = method.scriptPath ↔ ¬ HasGap method.scriptSpace
  oneSpace : ∀ path, ∀ method ∈ surface.methodsAt path, ∀ other ∈ surface.methodsAt path,
    ¬ HasGap method.scriptSpace → ¬ HasGap other.scriptSpace →
    method.scriptSpace = other.scriptSpace

/-- An answer is canonical unless two dots meet in it, and what is written where depends on nothing
else. -/
theorem pathsWritten_of_reachable {inspector : Inspector}
    (hreachable : inspector.resolver.Reachable) :
    (∀ space target, inspector.resolver.answer space = .ok target →
      target ≠ "" ∧ (Canonical target ↔ ¬ HasGap target)) ∧
    ∀ modules surface objects, (inspector.inspect modules).result = .ok surface →
      BindingObject.ofSurface surface = .ok objects → surface.PathsWritten objects := by
  refine ⟨fun space target hanswer => hreachable.canonical_iff hanswer,
    fun modules surface objects hinspect hbound => ?_⟩
  have hplaced := placed_of_inspect hreachable hinspect
  have hcanonical : ∀ path, ∀ method ∈ surface.methodsAt path,
      Canonical method.scriptSpace ↔ ¬ HasGap method.scriptSpace := by
    intro path method hmethod
    obtain ⟨space, hanswer⟩ := exists_answer_of_inspect hinspect (List.mem_of_mem_filter hmethod)
    exact (hreachable.canonical_iff hanswer).2
  refine ⟨?_, ?_, ?_⟩
  · intro path object hstands
    exact written_entriesAt (entriesAt_of_standsAt hplaced hbound hstands)
  · intro path method hmethod
    have hne := hplaced.segments_ne_nil.1 method (List.mem_of_mem_filter hmethod)
    rw [← hcanonical path method hmethod, ← segments_of_mem_methodsAt hmethod]
    exact dotted_segments_append_iff hne method.scriptName
  · intro path method hmethod other hother hspace hotherSpace
    refine Canonical.eq_of_segments_eq ((hcanonical path method hmethod).2 hspace)
      ((hcanonical path other hother).2 hotherSpace) ?_
    rw [segments_of_mem_methodsAt hmethod, segments_of_mem_methodsAt hother]

/-! ### A desk that has moved -/

def changedDecl (space : String) : MethodDecl where
  kind := "event"
  space := .text space
  owner := .text "Desk"
  name := .text "Changed"
  parameters := []
  returns := .text "void"

/-- What is old is no longer part of a namespace. -/
def oldRule : NamespaceRule where
  pattern := .text "old"
  replacement := .text ""

def deskModule : Descriptor where
  assembly := .text "Desk"
  methods := [changedDecl "office.old.desk", changedDecl "office.desk"]

def letterPattern (c : Char) : Pattern :=
  .charIn { negated := false, items := [.single c.toNat] } { ignoreCase := false, ascii := false }

def deskInspector : Inspector where
  resolver :=
    { rules :=
        [{ source := "old"
           pattern :=
             { pattern := .seq (letterPattern 'o') (.seq (letterPattern 'l') (letterPattern 'd'))
               groupCount := 0
               names := [] }
           replacement := .text "" }] }

def changedMethod (space scriptSpace : String) : Method where
  kind := .event
  assembly := .text "Desk"
  owner := .text "Desk"
  space
  scriptSpace
  name := "Changed"
  scriptName := "changed"
  arguments := []
  returns := .primitive .void "System.Void"

def deskSurface : Surface where
  methods := [changedMethod "office.old.desk" "office..desk", changedMethod "office.desk" "office.desk"]
  namespaces := ["office..desk", "office.desk"]

def deskObject : BindingObject :=
  .node "desk"
    [.event "changed", .broadcast "changed" "office..desk.changed" [],
      .event "changed", .broadcast "changed" "office.desk.changed" []] []

def deskObjects : List BindingObject := [.node "office" [] [deskObject]]

theorem ofRules_oldRule : Resolver.ofRules [oldRule] = .ok deskInspector.resolver := by
  cbv

theorem inspect_deskModule : (deskInspector.inspect [deskModule]).result = .ok deskSurface := by
  cbv

theorem bound_deskSurface : BindingObject.ofSurface deskSurface = .ok deskObjects := by
  cbv

theorem standsAt_desk : BindingObject.StandsAt deskObjects ["office", "desk"] deskObject :=
  @BindingObject.StandsAt.inside _ (.node "office" [] [deskObject]) _ _ List.mem_cons_self
    (.here List.mem_cons_self)

/-- Where the rule has taken the middle of a namespace away, two dots stay. The path of the event does
not lead to its object, and a second event of its name is in the object too. -/
theorem desk_not_canonical :
    Resolver.ofRules [oldRule] = .ok deskInspector.resolver ∧
      deskInspector.resolver.answer "office.old.desk" = .ok "office..desk" ∧
      ¬ Canonical "office..desk" ∧
      (deskInspector.inspect [deskModule]).result = .ok deskSurface ∧
      BindingObject.ofSurface deskSurface = .ok deskObjects ∧
      BindingObject.StandsAt deskObjects ["office", "desk"] deskObject ∧
      .broadcast "changed" "office..desk.changed" [] ∈ deskObject.entries ∧
      Text.dotted ["office", "desk", "changed"] ≠ "office..desk.changed" ∧
      ∃ method ∈ deskSurface.methodsAt ["office", "desk"],
        ∃ other ∈ deskSurface.methodsAt ["office", "desk"], method.scriptSpace ≠ other.scriptSpace := by
  refine ⟨ofRules_oldRule, by cbv, by unfold Canonical; decide, inspect_deskModule, bound_deskSurface,
    standsAt_desk, by decide, by decide, changedMethod "office.old.desk" "office..desk", by decide,
    changedMethod "office.desk" "office.desk", by decide, by decide⟩

/-- Both paths are written in the object, and just one of them leads there. -/
theorem pathsWritten_deskSurface :
    deskInspector.resolver.Reachable ∧
      (deskInspector.inspect [deskModule]).result = .ok deskSurface ∧
      deskSurface.PathsWritten deskObjects ∧
      deskObject.entries.filterMap BindingEntry.written? =
        [("changed", "office..desk.changed"), ("changed", "office.desk.changed")] := by
  have hreachable : deskInspector.resolver.Reachable := .made ofRules_oldRule
  have hwritten := (pathsWritten_of_reachable hreachable).2 [deskModule] deskSurface deskObjects
    inspect_deskModule bound_deskSurface
  exact ⟨hreachable, inspect_deskModule, hwritten, hwritten.written _ _ standsAt_desk⟩

end ScriptBridge
