import ScriptBridge.Proofs.Artifact.BindingLayout
import ScriptBridge.Proofs.Artifact.Declarations
import ScriptBridge.Proofs.Artifact.Totality
import ScriptBridge.Proofs.Surface.Reach

/-!
# One surface in two files

The declarations and the bindings of a surface expose the same methods and enumerations at the same
paths, though the ones are written namespace by namespace and the others by way of a tree from which what
is empty has been cut.
-/

namespace ScriptBridge

/-- Every method and every type stands in a namespace that has segments. -/
structure Surface.InNamespaces (surface : Surface) : Prop where
  methods : ∀ method ∈ surface.methods, Namespace.segments method.scriptSpace ≠ []
  types : ∀ type ∈ surface.types, Namespace.segments type.scriptSpace ≠ []

/-- A declaration file has at each path one line for each method and one block for each enumeration that
stands there, and no other lines and blocks of these kinds. -/
structure Surface.DeclaredIn (surface : Surface) (declared : List Layout) : Prop where
  outside : ∀ text, .line text ∈ declared → text = NamespaceDeclaration.fileHeader ∨ text = ""
  methods : ∀ path ≠ [],
    (((Layout.within (namespaceHeaders path) declared).filterMap Layout.line?).map Except.ok).Perm
      ((surface.methodsAt path).map fun method =>
        (MethodDeclaration.ofMethod surface [] method).map (·.text))
  enumerations : ∀ path ≠ [],
    (((Layout.within (namespaceHeaders path) declared).filterMap Layout.enumeration?).map
        Except.ok).Perm
      ((surface.enumerationsAt path).map fun type =>
        (TypeDeclaration.ofType surface [] type).map (·.layout))

/-- A binding file has at each path the entries of the methods and the one entry of each enumeration that
stand there, and then the objects inside it, of which none is empty. -/
structure Surface.BoundIn (surface : Surface) (bound : List Layout) : Prop where
  entries : ∀ method ∈ surface.methods, ∃ entries,
    method.bindingEntries = .ok entries ∧ entries.length = method.kind.entryCount
  lookups : ∀ type ∈ surface.enumerations, ∃ pairs,
    type.bindingEntries = .ok [.lookup type.identity.name.display pairs]
  outermost : surface.BoundOutermost bound
  bound : ∀ path ≠ [], surface.BoundAt bound path

section Files

variable {surface : Surface} {declarations : List NamespaceDeclaration}
  {objects : List BindingObject}

theorem outside_pieces (hplaced : surface.Placed)
    (hdeclared : NamespaceDeclaration.ofSurface surface [] = .ok declarations) {text : String}
    (hline : .line text ∈ NamespaceDeclaration.pieces declarations) :
    text = NamespaceDeclaration.fileHeader ∨ text = "" := by
  rcases List.mem_cons.1 hline with hheader | hline
  · exact .inl (Layout.line.inj hheader)
  · obtain ⟨declaration, hdeclaration, hline⟩ := List.mem_flatMap.1 hline
    rcases List.mem_cons.1 hline with hblank | hline
    · exact .inr (Layout.line.inj hblank)
    · obtain ⟨space, hspace, hmade⟩ := Outcome.exists_of_mem_results hdeclared hdeclaration
      have hpath := hplaced.segments space (List.mem_of_mem_filter hspace)
      obtain ⟨segment, rest, hsegments⟩ := List.exists_cons_of_ne_nil hpath
      rw [NamespaceDeclaration.layout, (parts_of_ofNamespace hmade).1, hsegments,
        NamespaceDeclaration.inNamespaces] at hline
      cases List.mem_singleton.1 hline

theorem objects_ne_nil (hmirrors : BindingObject.Mirrors surface [] (.node "" [] objects))
    (hplaced : surface.Placed) (hmethods : surface.methods ≠ []) : objects ≠ [] := by
  obtain ⟨method, hmethod⟩ := List.exists_mem_of_ne_nil _ hmethods
  obtain ⟨root, rest, hsegments⟩ :=
    List.exists_cons_of_ne_nil (hplaced.segments_ne_nil.1 method hmethod)
  have hoccupied : surface.Occupied (root :: rest) := by
    refine .inl (List.ne_nil_of_mem (List.mem_filter.2 ⟨hmethod, ?_⟩))
    simp [hsegments]
  cases hmirrors with
  | node _ _ _ hcomplete _ =>
    obtain ⟨object, hobject, -⟩ := hcomplete root _ hoccupied (List.prefix_append [root] rest)
    exact List.ne_nil_of_mem hobject

theorem declaredIn_pieces (hplaced : surface.Placed)
    (hdeclared : NamespaceDeclaration.ofSurface surface [] = .ok declarations) :
    surface.DeclaredIn (NamespaceDeclaration.pieces declarations) where
  outside _ := outside_pieces hplaced hdeclared
  methods _ hpath := perm_declared_methods hplaced hdeclared hpath
  enumerations _ hpath := perm_declared_enumerations hplaced hdeclared hpath

theorem boundIn_pieces (hplaced : surface.Placed) (hmethods : surface.methods ≠ [])
    (hbound : BindingObject.ofSurface surface = .ok objects) :
    surface.BoundIn (BindingObject.pieces objects) := by
  have hmirrors := BindingObject.mirrors_of_ofSurface hplaced hmethods hbound
  have hbindable := (hplaced.exists_bindings_iff hmethods).1 ⟨objects, hbound⟩
  refine ⟨?_, ?_, BindingObject.boundOutermost_pieces hmirrors, fun path hpath =>
    BindingObject.boundAt_pieces hmirrors hpath⟩
  · intro method hmethod
    obtain ⟨entries, hentries⟩ :=
      Method.exists_bindingEntries_iff.2 (hbindable.arguments method hmethod)
    exact ⟨entries, hentries, length_bindingEntries hentries⟩
  · intro type htype
    obtain ⟨htype, hkind⟩ := List.mem_filter.1 htype
    obtain ⟨entries, hentries⟩ := DeclaredType.exists_bindingEntries_iff.2 fun entry hentry =>
      ⟨hbindable.names type htype entry hentry, hbindable.numbers type htype entry hentry⟩
    obtain ⟨pairs, rfl⟩ := exists_lookup_of_bindingEntries (by simpa using hkind) hentries
    exact ⟨pairs, hentries⟩

end Files

/-- The declarations and the bindings of an inspected surface with methods are made independently of each
other, the ones just if it can be declared and the others just if it can be bound. Each file that is made
exposes the methods and the enumerations of the surface at their paths, so that both expose the same where
both are made. -/
theorem exposed_of_inspect {inspector : Inspector} {modules : List Descriptor} {surface : Surface}
    (hreachable : inspector.resolver.Reachable)
    (hinspect : (inspector.inspect modules).result = .ok surface) (hmethods : surface.methods ≠ []) :
    surface.InNamespaces ∧
      ((∃ text, (Artifacts.ofSurface surface []).declarations = .ok text) ↔ surface.Declarable) ∧
      ((∃ text, (Artifacts.ofSurface surface []).bindings = .ok text) ↔ surface.Bindable) ∧
      (∀ text, (Artifacts.ofSurface surface []).declarations = .ok text →
        ∃ declared, text = Layout.text declared ∧ surface.DeclaredIn declared) ∧
      ∀ text, (Artifacts.ofSurface surface []).bindings = .ok text →
        ∃ bound, text = Layout.text bound ∧ surface.BoundIn bound := by
  have hplaced := placed_of_inspect hreachable hinspect
  refine ⟨⟨hplaced.segments_ne_nil.1, hplaced.segments_ne_nil.2⟩, ?_, ?_, ?_, ?_⟩
  · rw [← hplaced.exists_declarations_iff]
    exact Outcome.exists_map_eq_ok_iff
  · rw [← hplaced.exists_bindings_iff hmethods]
    exact Outcome.exists_map_eq_ok_iff
  · intro text hdeclarations
    obtain ⟨declared, hdeclared, rfl⟩ := Outcome.map_eq_ok_iff.1 hdeclarations
    exact ⟨_, rfl, declaredIn_pieces hplaced hdeclared⟩
  · intro text hbindings
    obtain ⟨objects, hobjects, rfl⟩ := Outcome.map_eq_ok_iff.1 hbindings
    have hmirrors := BindingObject.mirrors_of_ofSurface hplaced hmethods hobjects
    have hfull := objects_ne_nil hmirrors hplaced hmethods
    refine ⟨_, ?_, boundIn_pieces hplaced hmethods hobjects⟩
    rw [BindingObject.fileText, if_neg (by simpa using hfull)]
    rfl

theorem named_listSurface : listSurface.Named :=
  ⟨by decide, by decide, by decide, by decide⟩

theorem isShort_listSurface :
    ∀ type ∈ listSurface.types, ∀ entry ∈ type.values, IntegerLiteral.IsShort entry.value := by
  have hzero : ∀ type ∈ listSurface.types, ∀ entry ∈ type.values, entry.value = 0 := by decide
  intro type htype entry hentry
  rw [hzero type htype entry hentry]
  exact IntegerLiteral.isShort_zero

/-- Both files of the list are made. -/
theorem exposed_listSurface :
    listInspector.resolver.Reachable ∧
      (listInspector.inspect [listModule]).result = .ok listSurface ∧ listSurface.methods ≠ [] ∧
      ∃ declared bound, (Artifacts.ofSurface listSurface []).declarations = .ok (Layout.text declared) ∧
        (Artifacts.ofSurface listSurface []).bindings = .ok (Layout.text bound) ∧
        listSurface.DeclaredIn declared ∧ listSurface.BoundIn bound := by
  have hreachable : listInspector.resolver.Reachable := @Namespace.Resolver.Reachable.made [] _ rfl
  have hmethods : listSurface.methods ≠ [] := List.cons_ne_nil _ _
  have hcomplete := complete_of_inspect inspect_listModule
  obtain ⟨-, hdeclarations, hbindings, hdeclared, hbound⟩ :=
    exposed_of_inspect hreachable inspect_listModule hmethods
  obtain ⟨_, hdeclarations⟩ := hdeclarations.2 ((named_listSurface.declarable_iff hcomplete).2
    fun type htype entry hentry => isShort_listSurface type htype entry
      (EnumMember.mem_of_mem_numberedFrom hentry))
  obtain ⟨_, hbindings⟩ := hbindings.2 (named_listSurface.bindable_iff.2 isShort_listSurface)
  obtain ⟨declared, rfl, hdeclaredIn⟩ := hdeclared _ hdeclarations
  obtain ⟨bound, rfl, hboundIn⟩ := hbound _ hbindings
  exact ⟨hreachable, inspect_listModule, hmethods, declared, bound, hdeclarations, hbindings,
    hdeclaredIn, hboundIn⟩

/-! ### A pattern with a number for a name -/

def loomModule : Descriptor where
  assembly := .text "Loom"
  methods := [{ kind := "invokable", space := .text "loom", owner := .text "", name := .text "Weave"
                parameters := [{ name := .int 5, type := .text "int" }], returns := .text "void" }]

def loomSurface : Surface where
  methods := [{ kind := .invokable, assembly := .text "Loom", owner := .text "", space := "loom"
                scriptSpace := "loom", name := "Weave", scriptName := "weave"
                arguments := [{ name := .int 5, scriptName := .int 5
                                type := .primitive .number "System.Int32" }]
                returns := .primitive .void "System.Void" }]
  namespaces := ["loom"]

theorem inspect_loomModule :
    (({ resolver := { rules := [] } } : Inspector).inspect [loomModule]).result = .ok loomSurface := by
  have hint : Registry.resolveValue {} (.text "int") "loom" [] =
      .ok (.primitive .number "System.Int32") :=
    Registry.resolveValue_eq_ok_iff.2 ⟨_, .mk "int" [] [], rfl, by cbv, by decide +kernel⟩
  have hvoid : Registry.resolveValue {} (.text "void") "loom" [] =
      .ok (.primitive .void "System.Void") :=
    Registry.resolveValue_eq_ok_iff.2 ⟨_, .mk "void" [] [], rfl, by cbv, by decide +kernel⟩
  have harguments : argumentsOf {} "loom" [{ name := .int 5, type := .text "int" }] = .ok
      [{ name := .int 5, scriptName := .int 5, type := .primitive .number "System.Int32" }] :=
    Outcome.mapM_eq_ok_iff.2 (.cons (Outcome.bind_eq_ok_iff.2 ⟨_, hint, rfl⟩) .nil)
  have hdeclared : declareModules [loomModule] ({}, { resolver := { rules := [] } }) =
      ({}, { resolver := { rules := [] } }) := rfl
  exact inspect_of_takes hdeclared
    ⟨_, .next (.taken rfl rfl rfl rfl rfl rfl harguments hvoid rfl .done) .done, rfl⟩

theorem bindings_loomSurface :
    (Artifacts.ofSurface loomSurface []).get .bindings = .error (.notJoined 0 (.int 5)) := by
  have hfault : (Artifacts.ofSurface loomSurface []).fault? .bindings = some (.notJoined 0 (.int 5)) := by
    decide +kernel
  unfold Artifacts.fault? at hfault
  split at hfault
  · cases hfault
  · rename_i hget
    cases hfault
    exact hget

/-- The method is declared, and nothing is bound. -/
theorem declared_alone_loomSurface :
    listInspector.resolver.Reachable ∧
      (listInspector.inspect [loomModule]).result = .ok loomSurface ∧ loomSurface.methods ≠ [] ∧
      (∃ text, (Artifacts.ofSurface loomSurface []).declarations = .ok text) ∧
      ∃ fault, (Artifacts.ofSurface loomSurface []).bindings = .error fault :=
  ⟨@Namespace.Resolver.Reachable.made [] _ rfl, inspect_loomModule, List.cons_ne_nil _ _, ⟨_, rfl⟩,
    _, bindings_loomSurface⟩

end ScriptBridge
