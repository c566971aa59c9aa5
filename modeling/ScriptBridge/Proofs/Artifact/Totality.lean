import ScriptBridge.Artifact.Artifacts
import ScriptBridge.Proofs.Artifact.BindingLayout
import ScriptBridge.Proofs.Artifact.Demands
import ScriptBridge.Proofs.Surface.Reach

/-!
# When artifacts are made

The declarations and the bindings of a surface are made exactly when what they write of it are texts, and
numbers that are short enough. They do not write the same: the declarations leave out a number where a
member follows its predecessor, and the bindings leave out the names of types.
-/

namespace ScriptBridge

/-! ### What is accepted -/

section Accepted

variable {handlers : TypeHandlers}

theorem writtenNumber_eq_ok_iff {n written : Int} :
    writtenNumber n = .ok written ↔ IntegerLiteral.IsShort n ∧ n = written := by
  rw [writtenNumber]
  split
  · rename_i hshort
    exact ⟨fun hok => ⟨hshort, Except.ok.inj hok⟩, fun h => congrArg _ h.2⟩
  · rename_i hlong
    refine ⟨fun hok => ?_, fun h => absurd h.1 hlong⟩
    cases hok

theorem Value.quotable_eq_ok_iff {v : Value} {text : String} :
    v.quotable = .ok text ↔ v = .text text := by
  cases v <;> simp [quotable]

theorem Value.fault?_requireTextsFrom_eq_none_iff {index : Nat} {values : List Value} :
    Outcome.fault? (requireTextsFrom index values) = none ↔ ∀ v ∈ values, v.isText = true := by
  induction values generalizing index with
  | nil => exact iff_of_true rfl nofun
  | cons v rest ih =>
    rw [requireTextsFrom, List.forall_mem_cons]
    split
    · rename_i htext
      rw [ih, and_iff_right htext]
    · rename_i hother
      exact iff_of_false nofun fun h => hother h.1

theorem Value.requireTexts_eq_ok_iff {values : List Value} :
    requireTexts values = .ok () ↔ ∀ v ∈ values, v.isText = true := by
  rw [← fault?_requireTextsFrom_eq_none_iff, Outcome.fault?_eq_none_iff]
  exact ⟨fun hok => ⟨(), hok⟩, fun ⟨(), hok⟩ => hok⟩

theorem EnumMember.fault?_bareName_eq_none_iff {name : Value} {isLast : Bool} :
    Outcome.fault? (bareName name isLast) = none ↔
      name.isText = true ∨ isLast = true ∧ name.isTruthy = false := by
  cases name <;> cases isLast <;> simp [bareName, Outcome.fault?, Value.isText] <;> grind

/-- What there has to be for a demand to be met. -/
def Demand.Met (handlers : TypeHandlers) : Demand → Prop
  | .handled context => handlers.fault? context = none
  | .joined names => ∀ name ∈ names, name.isText = true
  | .number n => IntegerLiteral.IsShort n
  | .bare name isLast => name.isText = true ∨ isLast = true ∧ name.isTruthy = false

theorem Demand.fault?_eq_none_iff {demand : Demand} :
    demand.fault? handlers = none ↔ demand.Met handlers := by
  cases demand with
  | handled context => rfl
  | joined names => exact Value.fault?_requireTextsFrom_eq_none_iff
  | number n => rw [fault?, Met, fault?_writtenNumber_eq_none_iff]
  | bare name isLast => exact EnumMember.fault?_bareName_eq_none_iff

theorem Demand.first?_eq_none_iff {demands : List Demand} :
    first? handlers demands = none ↔ ∀ demand ∈ demands, demand.Met handlers := by
  rw [first?, List.findSome?_eq_none_iff]
  exact forall₂_congr fun _ _ => fault?_eq_none_iff

end Accepted

/-! ### Declarations -/

/-- What is written of a surface in its declarations are texts and numbers that are short enough: parameters
of types; names of types that stand alone, in their own namespace, among bases or arguments; numbers of
members that do not follow their predecessors, and names of those that do. -/
structure Surface.Declarable (surface : Surface) : Prop where
  parameters : ∀ type ∈ surface.types, ∀ parameter ∈ type.parameters, parameter.isText = true
  bases : ∀ type ∈ surface.types, ∀ base ∈ type.bases,
    (ScriptType.joinedAs surface type.scriptSpace base).isText = true
  arguments : ∀ space position ref identity args, surface.Shows space position ref →
    .generic identity args ∈ ref.walk →
      ∀ arg ∈ args, (ScriptType.joinedAs surface space arg).isText = true
  numbers : ∀ type ∈ surface.types, ∀ entry ∈ EnumMember.numberedFrom 0 type.values,
    IntegerLiteral.IsShort entry.value
  names : ∀ type ∈ surface.types, ∀ name isLast, (name, isLast) ∈ EnumMember.bareFrom 0 type.values →
    name.isText = true ∨ isLast = true ∧ name.isTruthy = false

section Declarations

variable {surface : Surface} {handlers : TypeHandlers}

theorem DeclaredType.forall_met_ownDemands_iff {type : DeclaredType} :
    (∀ demand ∈ type.ownDemands surface, demand.Met handlers) ↔
      (∀ parameter ∈ type.parameters, parameter.isText = true) ∧
      (∀ base ∈ type.bases, (ScriptType.joinedAs surface type.scriptSpace base).isText = true) ∧
      (∀ entry ∈ EnumMember.numberedFrom 0 type.values, IntegerLiteral.IsShort entry.value) ∧
      ∀ name isLast, (name, isLast) ∈ EnumMember.bareFrom 0 type.values →
        name.isText = true ∨ isLast = true ∧ name.isTruthy = false := by
  obtain ⟨identity, scriptSpace, isValueType, shape⟩ := type
  cases shape with
  | enumeration values =>
    simp [ownDemands, EnumMember.demands, parameters, bases, DeclaredType.values, or_imp,
      forall_and, Demand.Met]
  | object parameters members bases =>
    simp [ownDemands, DeclaredType.parameters, DeclaredType.bases, values, Demand.Met,
      EnumMember.numberedFrom, EnumMember.bareFrom]

theorem TypeRef.forall_met_demands_iff {ref : TypeRef} {space : String} {position : Position} :
    (∀ demand ∈ ref.demands surface space position, demand.Met handlers) ↔
      (∀ managed args, .unknown managed args ∈ ref.walk →
        handlers.fault? { position := ref.askedAt position, space, managed } = none) ∧
      ∀ identity args, .generic identity args ∈ ref.walk →
        ∀ arg ∈ args, (ScriptType.joinedAs surface space arg).isText = true := by
  constructor
  · intro hmet
    constructor
    · intro managed args hpart
      exact hmet _ ((mem_demands_iff ref position).2 ⟨_, hpart, rfl⟩)
    · intro identity args hpart
      have hjoined := hmet _ ((mem_demands_iff ref position).2 ⟨_, hpart, rfl⟩)
      exact List.forall_mem_map.1 hjoined
  · rintro ⟨hhandled, hjoined⟩ demand hdemand
    obtain ⟨part, hpart, hown⟩ := (mem_demands_iff ref position).1 hdemand
    cases part with
    | unknown managed args =>
      cases hown
      exact hhandled managed args hpart
    | generic identity args =>
      cases hown
      exact List.forall_mem_map.2 (hjoined identity args hpart)
    | _ => cases hown

/-- All that the declarations of a surface demand is met just if the handlers that are asked give texts,
and the surface can be declared without them. -/
theorem Surface.Placed.forall_met_iff (hplaced : surface.Placed) :
    (∀ demand ∈ surface.demands, demand.Met handlers) ↔
      (∀ space position ref managed args, surface.Shows space position ref →
        .unknown managed args ∈ ref.walk →
          handlers.fault? { position := ref.askedAt position, space, managed } = none) ∧
      surface.Declarable := by
  have hdemands : (∀ demand ∈ surface.demands, demand.Met handlers) ↔
      (∀ type ∈ surface.types, ∀ demand ∈ type.ownDemands surface, demand.Met handlers) ∧
        ∀ space position ref, surface.Shows space position ref →
          ∀ demand ∈ ref.demands surface space position, demand.Met handlers := by
    constructor
    · intro hmet
      refine ⟨fun type htype demand hown => ?_, fun space position ref hshows demand hdemand => ?_⟩
      · exact hmet demand (hplaced.mem_demands_iff.2 (.inl ⟨type, htype, hown⟩))
      · exact hmet demand (hplaced.mem_demands_iff.2 (.inr ⟨space, position, ref, hshows, hdemand⟩))
    · rintro ⟨htypes, hrefs⟩ demand hdemand
      rcases hplaced.mem_demands_iff.1 hdemand with ⟨type, htype, hown⟩ |
        ⟨space, position, ref, hshows, hdemand⟩
      · exact htypes type htype demand hown
      · exact hrefs space position ref hshows demand hdemand
  simp only [hdemands, DeclaredType.forall_met_ownDemands_iff, TypeRef.forall_met_demands_iff]
  constructor
  · rintro ⟨htypes, hrefs⟩
    refine ⟨fun space position ref managed args hshows => (hrefs space position ref hshows).1 managed args,
      ?_, ?_, ?_, ?_, ?_⟩
    · exact fun type htype => (htypes type htype).1
    · exact fun type htype => (htypes type htype).2.1
    · exact fun space position ref identity args hshows =>
        (hrefs space position ref hshows).2 identity args
    · exact fun type htype => (htypes type htype).2.2.1
    · exact fun type htype => (htypes type htype).2.2.2
  · rintro ⟨hhandled, hparameters, hbases, harguments, hnumbers, hnames⟩
    refine ⟨fun type htype => ?_, fun space position ref hshows => ?_⟩
    · exact ⟨hparameters type htype, hbases type htype, hnumbers type htype, hnames type htype⟩
    · exact ⟨fun managed args => hhandled space position ref managed args hshows,
        fun identity args => harguments space position ref identity args hshows⟩

/-- Without handlers the declarations are made exactly when the surface can be declared. -/
theorem Surface.Placed.exists_declarations_iff (hplaced : surface.Placed) :
    (∃ declarations, NamespaceDeclaration.ofSurface surface [] = .ok declarations) ↔
      surface.Declarable := by
  rw [← Outcome.fault?_eq_none_iff, fault?_ofSurface, Demand.first?_eq_none_iff,
    hplaced.forall_met_iff]
  exact and_iff_right fun _ _ _ _ _ _ _ => rfl

end Declarations

/-! ### Bindings -/

/-- What is written of a surface in its bindings are texts and numbers that are short enough: the names of
arguments, and the names and the values of the members of enumerations. -/
structure Surface.Bindable (surface : Surface) : Prop where
  arguments : ∀ method ∈ surface.methods, ∀ argument ∈ method.arguments,
    argument.scriptName.isText = true
  names : ∀ type ∈ surface.types, ∀ entry ∈ type.values, entry.name.isText = true
  numbers : ∀ type ∈ surface.types, ∀ entry ∈ type.values, IntegerLiteral.IsShort entry.value

theorem Method.exists_bindingEntries_iff {method : Method} :
    (∃ entries, method.bindingEntries = .ok entries) ↔
      ∀ argument ∈ method.arguments, argument.scriptName.isText = true := by
  rw [← List.forall_mem_map (P := fun v : Value => v.isText = true),
    ← Value.requireTexts_eq_ok_iff]
  constructor
  · rintro ⟨entries, hentries⟩
    obtain ⟨⟨⟩, htexts, -⟩ := Outcome.bind_eq_ok_iff.1 hentries
    exact htexts
  · exact fun htexts => Outcome.exists_bind_eq_ok ⟨(), htexts⟩ fun _ => ⟨_, rfl⟩

namespace LookupPair

variable {values : List EnumValue}

theorem mem_of_mem_firstNames {entry : EnumValue} (hentry : entry ∈ firstNames values) :
    entry ∈ values := by
  induction values with
  | nil => exact hentry
  | cons first rest ih =>
    rcases List.mem_cons.1 hentry with rfl | hentry
    · exact List.mem_cons_self
    · exact List.mem_cons_of_mem _ (ih (List.mem_of_mem_filter hentry))

/-- The properties of a lookup object for values that can be written. -/
def pairsOf (values : List EnumValue) : List LookupPair :=
  (firstNames values).map (fun entry => .nameOf entry.value entry.name.display) ++
    values.map fun entry => .valueOf entry.name.display entry.value

theorem ofValues_eq_pairsOf (hnames : ∀ entry ∈ values, entry.name.isText = true)
    (hshort : ∀ entry ∈ values, IntegerLiteral.IsShort entry.value) :
    ofValues values = .ok (pairsOf values) := by
  have hwritten : ∀ entry ∈ values, writtenNumber entry.value = .ok entry.value :=
    fun entry hentry => writtenNumber_eq_ok_iff.2 ⟨hshort entry hentry, rfl⟩
  have hquotable : ∀ entry ∈ values, entry.name.quotable = .ok entry.name.display := by
    intro entry hentry
    obtain ⟨text, htext⟩ := Value.exists_text_of_isText (hnames entry hentry)
    rw [htext]
    rfl
  refine Outcome.bind_eq_ok_iff.2 ⟨_, Outcome.mapM_eq_ok_iff.2 ?_, Outcome.bind_eq_ok_iff.2
    ⟨_, Outcome.mapM_eq_ok_iff.2 ?_, rfl⟩⟩
  · rw [List.forall₂_map_right_iff, List.forall₂_same]
    intro entry hentry
    have hmem := mem_of_mem_firstNames hentry
    rw [hwritten entry hmem, hquotable entry hmem]
    rfl
  · rw [List.forall₂_map_right_iff, List.forall₂_same]
    intro entry hentry
    rw [hwritten entry hentry, hquotable entry hentry]
    rfl

/-- A lookup object is made just if all names and values can be written. -/
theorem ofValues_eq_ok_iff {pairs : List LookupPair} :
    ofValues values = .ok pairs ↔
      (∀ entry ∈ values, entry.name.isText = true ∧ IntegerLiteral.IsShort entry.value) ∧
        pairs = pairsOf values := by
  have hmade : ∀ hwritten : ∀ entry ∈ values,
      entry.name.isText = true ∧ IntegerLiteral.IsShort entry.value,
      ofValues values = .ok (pairsOf values) := fun hwritten =>
    ofValues_eq_pairsOf (fun entry hentry => (hwritten entry hentry).1)
      fun entry hentry => (hwritten entry hentry).2
  constructor
  · intro hpairs
    have hwritten : ∀ entry ∈ values,
        entry.name.isText = true ∧ IntegerLiteral.IsShort entry.value := by
      intro entry hentry
      obtain ⟨named, -, hrest⟩ := Outcome.bind_eq_ok_iff.1 hpairs
      obtain ⟨numbered, hnumbered, -⟩ := Outcome.bind_eq_ok_iff.1 hrest
      obtain ⟨pair, -, hpair⟩ := Outcome.exists_result_of_mem hnumbered hentry
      obtain ⟨name, hname, hpair⟩ := Outcome.bind_eq_ok_iff.1 hpair
      obtain ⟨n, hn, -⟩ := Outcome.bind_eq_ok_iff.1 hpair
      rw [Value.quotable_eq_ok_iff.1 hname]
      exact ⟨rfl, (writtenNumber_eq_ok_iff.1 hn).1⟩
    rw [hmade hwritten] at hpairs
    exact ⟨hwritten, (Except.ok.inj hpairs).symm⟩
  · rintro ⟨hwritten, rfl⟩
    exact hmade hwritten

end LookupPair

theorem DeclaredType.exists_bindingEntries_iff {type : DeclaredType} :
    (∃ entries, type.bindingEntries = .ok entries) ↔
      ∀ entry ∈ type.values, entry.name.isText = true ∧ IntegerLiteral.IsShort entry.value := by
  unfold bindingEntries values
  cases type.shape with
  | enumeration values =>
    constructor
    · rintro ⟨entries, hentries⟩
      obtain ⟨pairs, hpairs, -⟩ := Outcome.bind_eq_ok_iff.1 hentries
      exact (LookupPair.ofValues_eq_ok_iff.1 hpairs).1
    · intro hwritten
      exact Outcome.exists_bind_eq_ok ⟨_, LookupPair.ofValues_eq_ok_iff.2 ⟨hwritten, rfl⟩⟩
        fun _ => ⟨_, rfl⟩
  | object parameters members bases => exact iff_of_true ⟨[], rfl⟩ nofun

namespace Surface

variable {surface : Surface}

theorem exists_arranged {made : List (String × Except EmitFault BindingObject)}
    (hmade : ∀ entry ∈ made, ∃ object, entry.2 = .ok object) :
    ∃ objects, BindingObject.arranged made = .ok objects := by
  refine Outcome.exists_bind_eq_ok (Outcome.exists_mapM_eq_ok fun entry hentry => ?_) fun objects =>
    ⟨_, rfl⟩
  exact hmade entry (List.mem_mergeSort.1 hentry)

theorem Bindable.exists_object (hbindable : surface.Bindable) (tree : NameTree) (name : String)
    (path : List String) :
    ∃ object, BindingObject.ofNode (surface.nodeAt name path tree) = .ok object := by
  induction tree generalizing name path with
  | node children ih =>
    have hinner : ∃ inner, BindingObject.arranged
        (BindingObject.ofNodes (surface.nodeAt name path (.node children)).children) = .ok inner := by
      rw [BindingObject.ofNodes_children_nodeAt]
      refine exists_arranged fun entry hentry => ?_
      obtain ⟨child, hchild, rfl⟩ := List.mem_map.1 hentry
      exact ih child hchild child.1 (path ++ [child.1])
    rw [nodeAt, NamespaceNode.children] at hinner
    rw [nodeAt, BindingObject.ofNode]
    refine Outcome.exists_bind_eq_ok (Outcome.exists_mapM_eq_ok fun method hmethod => ?_) fun _ =>
      Outcome.exists_bind_eq_ok (Outcome.exists_mapM_eq_ok fun type htype => ?_) fun _ =>
        Outcome.exists_bind_eq_ok hinner fun _ => ⟨_, rfl⟩
    · exact Method.exists_bindingEntries_iff.2
        (hbindable.arguments method (List.mem_of_mem_filter hmethod))
    · have htype := List.mem_of_mem_filter htype
      exact DeclaredType.exists_bindingEntries_iff.2 fun entry hentry =>
        ⟨hbindable.names type htype entry hentry, hbindable.numbers type htype entry hentry⟩

/-- The bindings of a surface with methods are made exactly when it can be bound. -/
theorem Placed.exists_bindings_iff (hplaced : surface.Placed) (hmethods : surface.methods ≠ []) :
    (∃ objects, BindingObject.ofSurface surface = .ok objects) ↔ surface.Bindable := by
  constructor
  · rintro ⟨objects, hobjects⟩
    have hmirrors := BindingObject.mirrors_of_ofSurface hplaced hmethods hobjects
    have hentriesAt : ∀ path ≠ [], ∃ entries, surface.entriesAt path = .ok entries := by
      intro path hpath
      obtain ⟨entries, _, hentries, -⟩ := BindingObject.boundAt_pieces hmirrors hpath
      exact ⟨entries, hentries⟩
    have hvalues : ∀ type ∈ surface.types, ∀ entry ∈ type.values,
        entry.name.isText = true ∧ IntegerLiteral.IsShort entry.value := by
      intro type htype
      by_cases hkind : type.kind = .enumeration
      · obtain ⟨_, hentries⟩ := hentriesAt _ (hplaced.segments_ne_nil.2 type htype)
        obtain ⟨_, lookups, -, hall, -⟩ := entriesAt_eq_ok_iff.1 hentries
        have hmem : type ∈ surface.enumerationsAt (Namespace.segments type.scriptSpace) :=
          List.mem_filter.2 ⟨List.mem_filter.2 ⟨htype, by simpa using hkind⟩, by simp⟩
        obtain ⟨made, -, hmade⟩ := Outcome.exists_result_of_mem hall hmem
        exact DeclaredType.exists_bindingEntries_iff.1 ⟨made, hmade⟩
      · exact DeclaredType.exists_bindingEntries_iff.1 ⟨[], bindingEntries_of_object hkind⟩
    refine ⟨fun method hmethod => ?_, fun type htype entry hentry => (hvalues type htype entry hentry).1,
      fun type htype entry hentry => (hvalues type htype entry hentry).2⟩
    obtain ⟨_, hentries⟩ := hentriesAt _ (hplaced.segments_ne_nil.1 method hmethod)
    obtain ⟨methodEntries, _, hall, -⟩ := entriesAt_eq_ok_iff.1 hentries
    have hmem : method ∈ surface.methodsAt (Namespace.segments method.scriptSpace) :=
      List.mem_filter.2 ⟨hmethod, by simp⟩
    obtain ⟨made, -, hmade⟩ := Outcome.exists_result_of_mem hall hmem
    exact Method.exists_bindingEntries_iff.1 ⟨made, hmade⟩
  · intro hbindable
    rw [BindingObject.ofSurface, if_neg (by simpa using hmethods), hplaced.tree?_eq.2]
    cases surface.names with
    | node children =>
      rw [BindingObject.ofNodes_children_nodeAt]
      refine exists_arranged fun entry hentry => ?_
      obtain ⟨child, -, rfl⟩ := List.mem_map.1 hentry
      exact hbindable.exists_object child.2 child.1 _

end Surface

/-! ### Names that are texts -/

/-- The names of a surface that are written are texts. -/
structure Surface.Named (surface : Surface) : Prop where
  arguments : ∀ method ∈ surface.methods, ∀ argument ∈ method.arguments,
    argument.scriptName.isText = true
  names : ∀ type ∈ surface.types, type.identity.name.isText = true
  parameters : ∀ type ∈ surface.types, ∀ parameter ∈ type.parameters, parameter.isText = true
  items : ∀ type ∈ surface.types, ∀ entry ∈ type.values, entry.name.isText = true

/-- What a surface mentions is among its types. -/
structure Surface.Complete (surface : Surface) : Prop where
  signatures : ∀ method ∈ surface.methods, ∀ ref ∈ method.signature, ∀ identity,
    ref.Mentions identity → ∃ type ∈ surface.types, type.identity = identity
  types : ∀ type ∈ surface.types, ∀ identity, type.Mentions identity →
    ∃ other ∈ surface.types, other.identity = identity

theorem complete_of_inspect {inspector : Inspector} {modules : List Descriptor} {surface : Surface}
    (hinspect : (inspector.inspect modules).result = .ok surface) : surface.Complete :=
  ⟨(mentioned_of_inspect hinspect).1, (mentioned_of_inspect hinspect).2⟩

namespace Surface

variable {surface : Surface} {space : String} {position : Position} {ref : TypeRef}

theorem Complete.exists_type_of_shows (hcomplete : surface.Complete)
    (hshows : surface.Shows space position ref) {identity : TypeIdentity}
    (hmentions : ref.Mentions identity) : ∃ type ∈ surface.types, type.identity = identity := by
  cases hshows with
  | argument hmethod hargument =>
    exact hcomplete.signatures _ hmethod _
      (List.mem_append_left _ (List.mem_map_of_mem hargument)) _ hmentions
  | result hmethod _ =>
    exact hcomplete.signatures _ hmethod _
      (List.mem_append_right _ (List.mem_singleton_self _)) _ hmentions
  | @member type member htype hmember =>
    refine hcomplete.types _ htype _ (.inr ⟨member, hmember, ?_⟩)
    unfold Member.shown at hmentions
    split at hmentions
    · rename_i inner hnullable
      rw [hnullable]
      exact .nullable hmentions
    · exact hmentions
  | base htype hbase => exact hcomplete.types _ htype _ (.inl ⟨_, hbase, hmentions⟩)

theorem isText_joinedAs (hname : ∀ identity, ref = .custom identity → identity.name.isText = true) :
    (ScriptType.joinedAs surface space ref).isText = true := by
  unfold ScriptType.joinedAs
  split
  · split
    · exact hname _ rfl
    · rfl
  · rfl

/-- If the names of a surface are texts, it can be declared just if no number that is written is too
long. -/
theorem Named.declarable_iff (hnamed : surface.Named) (hcomplete : surface.Complete) :
    surface.Declarable ↔ ∀ type ∈ surface.types, ∀ entry ∈ EnumMember.numberedFrom 0 type.values,
      IntegerLiteral.IsShort entry.value := by
  refine ⟨(·.numbers), fun hnumbers => ⟨hnamed.parameters, ?_, ?_, hnumbers, ?_⟩⟩
  · intro type htype base hbase
    refine isText_joinedAs fun identity hidentity => ?_
    obtain ⟨other, hother, rfl⟩ := hcomplete.exists_type_of_shows (.base htype hbase)
      (hidentity ▸ TypeRef.Mentions.custom)
    exact hnamed.names other hother
  · intro space position ref identity args hshows hpart arg harg
    refine isText_joinedAs fun inner hinner => ?_
    obtain ⟨other, hother, rfl⟩ := hcomplete.exists_type_of_shows hshows
      (TypeRef.mentions_of_mem_walk (.argument harg (hinner ▸ TypeRef.Mentions.custom)) ref hpart)
    exact hnamed.names other hother
  · intro type htype name isLast hbare
    obtain ⟨entry, hentry, rfl⟩ := EnumMember.exists_of_mem_bareFrom hbare
    exact .inl (hnamed.items type htype entry hentry)

/-- If the names of a surface are texts, it can be bound just if no value of an enumeration is too long. -/
theorem Named.bindable_iff (hnamed : surface.Named) :
    surface.Bindable ↔ ∀ type ∈ surface.types, ∀ entry ∈ type.values,
      IntegerLiteral.IsShort entry.value :=
  ⟨(·.numbers), fun hnumbers => ⟨hnamed.arguments, hnamed.items, hnumbers⟩⟩

end Surface

end ScriptBridge
