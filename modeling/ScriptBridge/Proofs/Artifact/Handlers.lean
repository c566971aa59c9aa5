import ScriptBridge.Proofs.Artifact.Agreement
import ScriptBridge.Proofs.Artifact.DeclaredTypes
import ScriptBridge.Proofs.Artifact.EnumerationReading
import ScriptBridge.Proofs.Session.Coherence
import ScriptBridge.Proofs.Surface.Selection

/-!
# What type handlers make fail

Type handlers are asked for the unknown types in the declarations, in the order these are written in, and
for nothing else. So where no name or number is in the way, the declarations fail with the first of them
that fails, and the other artifacts come out as they do without handlers.
-/

namespace ScriptBridge

/-! ### Names from modules -/

structure TypeDecl.Named (decl : TypeDecl) : Prop where
  name : decl.name.isText = true
  parameters : ∀ parameter ∈ decl.parameters, parameter.isText = true
  members : ∀ member ∈ decl.members, member.name.isText = true
  items : ∀ item ∈ decl.items, item.name.isText = true

/-- The names of classes, arguments, types, type parameters, members and items in a module are texts. -/
structure Descriptor.Named (module : Descriptor) : Prop where
  owners : ∀ decl ∈ module.methods, decl.owner.isText = true
  arguments : ∀ decl ∈ module.methods, ∀ parameter ∈ decl.parameters, parameter.name.isText = true
  types : ∀ decl ∈ module.types, decl.Named

theorem mem_of_mem_firsts {α κ : Type} [DecidableEq κ] {key : α → κ} {earlier xs : List α} {x : α}
    (hmem : x ∈ firsts key earlier xs) : x ∈ xs := by
  induction xs generalizing earlier with
  | nil => cases hmem
  | cons first xs ih =>
    by_cases hfirst : key first ∈ earlier.map key
    · rw [firsts_cons_of_mem hfirst] at hmem
      exact List.mem_cons_of_mem _ (ih hmem)
    · rw [firsts_cons_of_not_mem hfirst] at hmem
      exact (List.mem_cons.1 hmem).elim (fun heq => heq ▸ List.mem_cons_self)
        fun hrest => List.mem_cons_of_mem _ (ih hrest)

theorem isText_scriptName_of_inspect {inspector : Inspector} {modules : List Descriptor}
    {surface : Surface} (hnamed : ∀ module ∈ modules, module.Named)
    (hinspect : (inspector.inspect modules).result = .ok surface) :
    ∀ method ∈ surface.methods, ∀ argument ∈ method.arguments, argument.scriptName.isText = true := by
  intro method hmethod argument hargument
  obtain ⟨⟨assembly, kind, decl⟩, hentry, space, scriptSpace, name, arguments, returns, -, -, -,
    harguments, -, rfl⟩ := Outcome.exists_left_of_forall₂ (taken_of_inspect hinspect) hmethod
  have hentry := List.mem_of_mem_filter (mem_of_mem_firsts hentry)
  obtain ⟨module, hmodule, hentry⟩ := List.mem_flatMap.1 hentry
  obtain ⟨_, hmethod, heq⟩ := List.mem_map.1 hentry
  cases heq
  obtain ⟨declared, hdecl, hkind⟩ := List.mem_filterMap.1 hmethod
  obtain ⟨_, -, heq⟩ := Option.map_eq_some_iff.1 hkind
  cases heq
  obtain ⟨parameter, hparameter, hmade⟩ := Outcome.exists_of_mem_results harguments hargument
  obtain ⟨text, htext⟩ :=
    Value.exists_text_of_isText ((hnamed module hmodule).arguments decl hdecl parameter hparameter)
  obtain ⟨ref, -, hmade⟩ := Outcome.bind_eq_ok_iff.1 hmade
  rw [htext] at hmade
  cases hmade
  rfl

theorem named_of_inspect {inspector : Inspector} {modules : List Descriptor} {surface : Surface}
    (hnamed : ∀ module ∈ modules, module.Named)
    (hinspect : (inspector.inspect modules).result = .ok surface) : surface.Named := by
  have htypes : ∀ type ∈ surface.types, ∃ decl, decl.Named ∧ decl.identity = type.identity ∧
      describe (Registry.ofModules modules) decl.identity decl type.scriptSpace = .ok type := by
    intro type htype
    obtain ⟨decl, space, hfind, hidentity, -, -, hdescribe⟩ := describedBy_of_inspect hinspect htype
    rw [Registry.find?_ofModules] at hfind
    obtain ⟨module, hmodule, hdecl⟩ := List.mem_flatMap.1 (List.mem_of_find?_eq_some hfind)
    exact ⟨decl, (hnamed module hmodule).types decl hdecl, hidentity, hdescribe⟩
  constructor
  · exact isText_scriptName_of_inspect hnamed hinspect
  · intro type htype
    obtain ⟨decl, hdecl, hidentity, -⟩ := htypes type htype
    rw [← hidentity]
    exact hdecl.name
  · intro type htype parameter hparameter
    obtain ⟨decl, hdecl, -, hdescribe⟩ := htypes type htype
    rcases shape_of_describe hdescribe with ⟨-, hshape⟩ | ⟨-, members, bases, -, -, hshape⟩
    · rw [DeclaredType.parameters, hshape] at hparameter
      cases hparameter
    · rw [DeclaredType.parameters, hshape] at hparameter
      exact hdecl.parameters parameter hparameter
  · intro type htype entry hentry
    obtain ⟨decl, hdecl, -, hdescribe⟩ := htypes type htype
    rcases shape_of_describe hdescribe with ⟨-, hshape⟩ | ⟨-, members, bases, -, -, hshape⟩
    · rw [DeclaredType.values, hshape] at hentry
      have hname : entry.name ∈ decl.items.map (·.name) :=
        (numbers_valuesFrom decl.items 0).names ▸ List.mem_map_of_mem hentry
      obtain ⟨item, hitem, heq⟩ := List.mem_map.1 hname
      rw [← heq]
      exact hdecl.items item hitem
    · rw [DeclaredType.values, hshape] at hentry
      cases hentry

/-! ### Sessions -/

theorem Artifacts.fault?_eq (artifacts : Artifacts) (kind : ArtifactKind) :
    artifacts.fault? kind = Outcome.fault? (artifacts.get kind) := by
  unfold Artifacts.fault?
  cases artifacts.get kind <;> rfl

theorem Artifacts.text_of_fault {artifacts : Artifacts} {kind : ArtifactKind}
    (hfault : artifacts.fault? kind ≠ none) : artifacts.text kind = "" := by
  unfold fault? at hfault
  unfold text
  split
  · rename_i made hmade
    rw [hmade] at hfault
    exact absurd rfl hfault
  · rfl

/-- If the names of a surface are texts, its bindings are made just if no value of an enumeration is too
long. -/
theorem Surface.Named.exists_bindings_iff {surface : Surface} (hnamed : surface.Named)
    (hplaced : surface.Placed) (hcalled : surface.methods = [] → surface.types = []) :
    (∃ objects, BindingObject.ofSurface surface = .ok objects) ↔
      ∀ type ∈ surface.types, ∀ entry ∈ type.values, IntegerLiteral.IsShort entry.value := by
  by_cases hmethods : surface.methods = []
  · rw [BindingObject.ofSurface, if_pos (by simpa using hmethods), hcalled hmethods]
    exact iff_of_true ⟨[], rfl⟩ (List.forall_mem_nil _)
  · rw [hplaced.exists_bindings_iff hmethods, hnamed.bindable_iff]

theorem Artifacts.fault?_bindings (surface : Surface) (handlers : TypeHandlers) :
    (ofSurface surface handlers).fault? .bindings =
      Outcome.fault? (BindingObject.ofSurface surface) := by
  rw [fault?_eq]
  exact Outcome.fault?_map _ _

/-- Whatever handlers a session has, the serializer is made and the bindings are made just if no value of
an enumeration is too long, both as they are made without handlers. The declarations fail just if a
handler fails for an unknown type that is in no other one, in an argument, in a result that is not an
event's, in a member or in a base, or if a value of an enumeration is too long that does not follow its
predecessor. They then have no text, and fail as the first of these does, in the order they are written
in. -/
theorem faults_of_generate {s : Session} {surface : Surface} (hcoherent : s.Coherent)
    (hnamed : ∀ module ∈ s.modules, module.Named) (hinspect : s.inspect.result = .ok surface) :
    ∃ artifacts plain, s.generate.result = .ok artifacts ∧
      ({ s with handlers := [] } : Session).generate.result = .ok plain ∧
      artifacts.fault? .serializer = none ∧ artifacts.serializer = plain.serializer ∧
      artifacts.bindings = plain.bindings ∧
      (artifacts.fault? .bindings = none ↔ ∀ type ∈ surface.types, ∀ entry ∈ type.values,
        IntegerLiteral.IsShort entry.value) ∧
      artifacts.fault? .declarations = Demand.first? s.handlers surface.demands ∧
      (artifacts.fault? .declarations = none ↔
        (∀ space position ref managed args, surface.Shows space position ref →
          .unknown managed args ∈ ref.walk →
            s.handlers.fault? { position := ref.askedAt position, space, managed } = none) ∧
        ∀ type ∈ surface.types, ∀ entry ∈ EnumMember.numberedFrom 0 type.values,
          IntegerLiteral.IsShort entry.value) ∧
      (artifacts.fault? .declarations ≠ none → artifacts.text .declarations = "") := by
  have hfind : s.find.1 = .ok surface := hcoherent.result_inspect ▸ hinspect
  obtain ⟨resolver, hrules, hfound⟩ := Session.exists_inspect_of_find hfind
  have hsurface := named_of_inspect hnamed hfound
  have hplaced := placed_of_inspect (Namespace.Resolver.Reachable.made hrules) hfound
  have hplain : ({ s with handlers := [] } : Session).inspect.result = .ok surface := by
    have hsame : ({ s with handlers := [] } : Session).Coherent := hcoherent
    rw [hsame.result_inspect]
    exact hfind
  have hdeclarations : (Artifacts.ofSurface surface s.handlers).fault? .declarations =
      Demand.first? s.handlers surface.demands := by
    rw [Artifacts.fault?_eq]
    exact (Outcome.fault?_map _ _).trans fault?_ofSurface
  refine ⟨Artifacts.ofSurface surface s.handlers, Artifacts.ofSurface surface [], ?_, ?_, rfl, rfl, rfl,
    ?_, hdeclarations, ?_, Artifacts.text_of_fault⟩
  · rw [Session.result_generate, hinspect]
    rfl
  · rw [Session.result_generate, hplain]
    rfl
  · rw [Artifacts.fault?_bindings, Outcome.fault?_eq_none_iff]
    exact hsurface.exists_bindings_iff hplaced (types_eq_nil_of_inspect hfound)
  · rw [hdeclarations, Demand.first?_eq_none_iff, hplaced.forall_met_iff,
      hsurface.declarable_iff (complete_of_inspect hfound)]

/-! ### A letter to nobody -/

def mailMethodDecl (kind name : String) (parameters : List ParameterDecl) (returns : String) :
    MethodDecl where
  kind
  space := .text "mail"
  owner := .text "Office"
  name := .text name
  parameters
  returns := .text returns

/-- What has been lost is not declared, and an address is. -/
def mailModule : Descriptor where
  assembly := .text "Mail"
  methods := [mailMethodDecl "event" "Lost" [] "Letter",
    mailMethodDecl "function" "Send" [{ name := .text "to", type := .text "Address" }] "Letter"]

def mailMethod (kind : MethodKind) (name scriptName : String) (arguments : List Argument) :
    Method where
  kind
  assembly := .text "Mail"
  owner := .text "Office"
  space := "mail"
  scriptSpace := "mail"
  name
  scriptName
  arguments
  returns := .unknown "Letter" []

def mailSurface : Surface where
  methods := [mailMethod .event "Lost" "lost" [],
    mailMethod .function "Send" "send"
      [{ name := .text "to", scriptName := .text "to", type := .unknown "Address" [] }]]
  namespaces := ["mail"]

def missing : TypeHandler := fun context => .error (.handlerFailed ("no " ++ context.managed))

def mailSession : Session where
  modules := [mailModule]
  handlers := [("Letter", missing), ("Address", missing)]

theorem resolveValue_letter :
    (Registry.ofModules [mailModule]).resolveValue (.text "Letter") "mail" [] =
      .ok (.unknown "Letter" []) :=
  Registry.resolveValue_eq_ok_iff.2 ⟨_, .mk "Letter" [] [], rfl, by cbv, by decide +kernel⟩

theorem resolveValue_address :
    (Registry.ofModules [mailModule]).resolveValue (.text "Address") "mail" [] =
      .ok (.unknown "Address" []) :=
  Registry.resolveValue_eq_ok_iff.2 ⟨_, .mk "Address" [] [], rfl, by cbv, by decide +kernel⟩

theorem inspect_mailModule :
    (({ resolver := { rules := [] } } : Inspector).inspect [mailModule]).result = .ok mailSurface := by
  have harguments : argumentsOf (Registry.ofModules [mailModule]) "mail"
      [{ name := .text "to", type := .text "Address" }] =
        .ok [{ name := .text "to", scriptName := .text "to", type := .unknown "Address" [] }] := by
    refine Outcome.mapM_eq_ok_iff.2 (.cons (Outcome.bind_eq_ok_iff.2 ⟨_, resolveValue_address, ?_⟩) .nil)
    rfl
  refine inspect_of_takes (Prod.ext (fst_declareModules _ _) rfl)
    ⟨_, .next (.taken rfl rfl rfl rfl rfl rfl rfl resolveValue_letter rfl .done)
      (.next (.taken rfl rfl rfl rfl rfl rfl harguments resolveValue_letter rfl .done) .done), ?_⟩
  rfl

theorem inspect_mailSession : mailSession.inspect.result = .ok mailSurface := by
  have hrules : Namespace.Resolver.ofRules mailSession.effectiveRules = .ok { rules := [] } := rfl
  rw [(Session.coherent_of_surface_eq_none rfl).result_inspect, Session.fst_find_of_ok hrules]
  exact inspect_mailModule

/-- Both handlers fail, and the one for the address comes first: the letters of the event are not
declared. -/
theorem faults_mail :
    ∃ artifacts, mailSession.generate.result = .ok artifacts ∧
      artifacts.fault? .declarations = some (.handlerFailed "no Address") ∧
      artifacts.fault? .bindings = none ∧ artifacts.fault? .serializer = none := by
  have hnamed : ∀ module ∈ mailSession.modules, module.Named := by
    intro module hmodule
    obtain rfl := List.mem_singleton.1 hmodule
    exact ⟨by decide, by decide, fun _ hdecl => nomatch hdecl⟩
  obtain ⟨artifacts, -, hartifacts, -, hserializer, -, -, hbindings, hdeclarations, -⟩ :=
    faults_of_generate (Session.coherent_of_surface_eq_none rfl) hnamed inspect_mailSession
  refine ⟨artifacts, hartifacts, hdeclarations.trans (by decide), hbindings.2 ?_, hserializer⟩
  exact fun _ htype => nomatch htype

/-! ### An enumeration to the brim -/

def brimModule : Descriptor where
  assembly := .text "Brim"
  types := [brimDecl]
  methods := [{ kind := "invokable", space := .text "game", owner := .text "Game",
                name := .text "Get", parameters := [], returns := .text "Brim" }]

def brimType : DeclaredType where
  identity := brimDecl.identity
  scriptSpace := "game"
  isValueType := true
  shape := .enumeration (valuesFrom 0 brimDecl.items)

def brimSurface : Surface where
  methods := [{ kind := .invokable, assembly := .text "Brim", owner := .text "Game", space := "game",
                scriptSpace := "game", name := "Get", scriptName := "get", arguments := [],
                returns := .custom brimDecl.identity }]
  types := [brimType]
  namespaces := ["game"]

theorem resolveValue_brim :
    (Registry.ofModules [brimModule]).resolveValue (.text "Brim") "game" [] =
      .ok (.custom brimDecl.identity) :=
  Registry.resolveValue_eq_ok_iff.2 ⟨_, .mk "Brim" [] [], rfl, by cbv, by decide +kernel⟩

theorem inspect_brimModule :
    (({ resolver := { rules := [] } } : Inspector).inspect [brimModule]).result = .ok brimSurface := by
  have hfind : (Registry.ofModules [brimModule]).find? brimDecl.identity.key = some brimDecl := by
    rw [Registry.find?_ofModules]
    rfl
  refine inspect_of_takes (Prod.ext (fst_declareModules _ _) rfl)
    ⟨_, .next (.taken rfl rfl rfl rfl rfl rfl rfl resolveValue_brim rfl
      (@Explores.described _ _ _ _ _ brimDecl _ brimType rfl hfind rfl rfl rfl .done)) .done, ?_⟩
  rfl

/-- No handler is registered, and the bindings of a surface with such an enumeration fail all the same. -/
theorem brim_not_bound :
    ∃ artifacts, ({ modules := [brimModule] } : Session).generate.result = .ok artifacts ∧
      artifacts.fault? .bindings ≠ none ∧ artifacts.text .bindings = "" := by
  have hnamed : ∀ module ∈ [brimModule], module.Named := by
    intro module hmodule
    obtain rfl := List.mem_singleton.1 hmodule
    refine ⟨by decide, by decide, fun decl hdecl => ?_⟩
    obtain rfl := List.mem_singleton.1 hdecl
    refine ⟨rfl, (fun _ hparameter => nomatch hparameter), (fun _ hmember => nomatch hmember),
      fun item hitem => ?_⟩
    fin_cases hitem <;> rfl
  have hrules : Namespace.Resolver.ofRules ({ modules := [brimModule] } : Session).effectiveRules =
      .ok { rules := [] } := rfl
  have hinspect : ({ modules := [brimModule] } : Session).inspect.result = .ok brimSurface := by
    rw [(Session.coherent_of_surface_eq_none rfl).result_inspect, Session.fst_find_of_ok hrules]
    exact inspect_brimModule
  have hfails : (Artifacts.ofSurface brimSurface []).fault? .bindings ≠ none := by
    rw [Artifacts.fault?_bindings, ne_eq, Outcome.fault?_eq_none_iff,
      (named_of_inspect hnamed inspect_brimModule).exists_bindings_iff
        (placed_of_inspect (Namespace.Resolver.Reachable.made hrules) inspect_brimModule)
        fun hnone => nomatch hnone]
    intro hshort
    have hover : (⟨.text "Over", Nat.pow 10 IntegerLiteral.digitLimit - 1 + 1⟩ : EnumValue) ∈
        brimType.values := List.mem_cons_of_mem _ List.mem_cons_self
    have hlong := hshort brimType (List.mem_singleton.2 rfl) _ hover
    exact not_isShort_over hlong
  refine ⟨Artifacts.ofSurface brimSurface [], ?_, hfails, Artifacts.text_of_fault hfails⟩
  rw [Session.result_generate, hinspect]
  rfl

end ScriptBridge
