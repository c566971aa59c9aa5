import ScriptBridge.Proofs.Artifact.Declarations

/-!
# What the declarations demand

To write the declarations of a surface, handlers have to give the texts of unknown types, names that are
joined have to be texts, and numbers must not be too long. These demands are listed in the order in which
they come up. The declarations fail with the first that cannot be met, and are made if there is none.
-/

namespace ScriptBridge

/-- What a handler fails with when it is asked in a context; none if there is no handler. -/
def TypeHandlers.fault? (handlers : TypeHandlers) (context : HandlerContext) : Option EmitFault :=
  (handlers.lookup context.managed).bind fun handler => Outcome.fault? (handler context)

/-- Something that can go wrong while the declarations are written. -/
inductive Demand
  /-- An unknown type, of which a handler is asked the text. -/
  | handled (context : HandlerContext)
  /-- Names that are joined. -/
  | joined (names : List Value)
  /-- The value of an enumeration member that does not follow its predecessor. -/
  | number (n : Int)
  /-- The name of a member that does. -/
  | bare (name : Value) (isLast : Bool)
deriving Repr, DecidableEq

def Demand.fault? (handlers : TypeHandlers) : Demand → Option EmitFault
  | .handled context => handlers.fault? context
  | .joined names => Outcome.fault? (Value.requireTexts names)
  | .number n => Outcome.fault? (writtenNumber n)
  | .bare name isLast => Outcome.fault? (EnumMember.bareName name isLast)

/-- The first demand of a list that is not met. -/
def Demand.first? (handlers : TypeHandlers) (demands : List Demand) : Option EmitFault :=
  demands.findSome? (fault? handlers)

namespace Demand

variable {handlers : TypeHandlers}

theorem first?_append (demands others : List Demand) :
    first? handlers (demands ++ others) = (first? handlers demands).or (first? handlers others) :=
  List.findSome?_append

theorem first?_singleton (demand : Demand) : first? handlers [demand] = demand.fault? handlers :=
  List.findSome?_singleton

end Demand

/-! ### The demands of a surface -/

namespace TypeRef

mutual

/-- The demands of a reference at a position in a namespace. -/
def demands (surface : Surface) (space : String) (position : Position) : TypeRef → List Demand
  | .nullable inner => demands surface space .nested inner
  | .array element _ => demands surface space .nested element
  | .map key value _ => demands surface space .nested key ++ demands surface space .nested value
  | .generic _ args =>
    demandsAll surface space args ++ [.joined (args.map (ScriptType.joinedAs surface space))]
  | .taskOf inner => demands surface space .nested inner
  | .unknown managed _ => [.handled { position, space, managed }]
  | _ => []

def demandsAll (surface : Surface) (space : String) : List TypeRef → List Demand
  | [] => []
  | ref :: rest => demands surface space .nested ref ++ demandsAll surface space rest

end

end TypeRef

/-- The reference that is written for a member: what is nullable is optional instead. -/
def Member.shown (member : Member) : TypeRef :=
  match member.type with
  | .nullable inner => inner
  | ref => ref

namespace EnumMember

/-- The names of the members that follow their predecessors, each with whether it is the last, where the
first would have a given number. -/
def bareFrom (next : Int) : List EnumValue → List (Value × Bool)
  | [] => []
  | entry :: rest =>
    if entry.value = next then (entry.name, rest.isEmpty) :: bareFrom (entry.value + 1) rest
    else bareFrom (entry.value + 1) rest

def demands (values : List EnumValue) : List Demand :=
  (numberedFrom 0 values).map (.number ·.value) ++
    (bareFrom 0 values).map fun bare => .bare bare.1 bare.2

end EnumMember

def DeclaredType.demands (surface : Surface) (type : DeclaredType) : List Demand :=
  match type.shape with
  | .enumeration values => EnumMember.demands values
  | .object parameters members bases =>
    .joined parameters :: bases.flatMap (TypeRef.demands surface type.scriptSpace .nested) ++
      .joined (bases.map (ScriptType.joinedAs surface type.scriptSpace)) ::
      members.flatMap fun member => member.shown.demands surface type.scriptSpace .member

/-- What an event comes to is not declared. -/
def Method.demands (surface : Surface) (method : Method) : List Demand :=
  (method.arguments.flatMap fun argument =>
    argument.type.demands surface method.scriptSpace .argument) ++
    match method.kind with
    | .event => []
    | _ => method.returns.demands surface method.scriptSpace .result

def Surface.demands (surface : Surface) : List Demand :=
  surface.namespaces.flatMap fun space =>
    (surface.typesIn space).flatMap (·.demands surface) ++
      (surface.methodsIn space).flatMap (·.demands surface)

/-! ### The first that is not met -/

section References

variable {surface : Surface} {handlers : TypeHandlers} {space : String}

mutual

theorem fault?_ofRef : ∀ (ref : TypeRef) (position : Position),
    Outcome.fault? (ScriptType.ofRef surface handlers space position ref) =
      Demand.first? handlers (ref.demands surface space position)
  | .primitive _ _, _ | .custom _, _ | .task, _ | .parameter _, _ => rfl
  | .nullable inner, _ => by
    rw [ScriptType.ofRef, Outcome.fault?_bind_of_ok fun _ => rfl, TypeRef.demands]
    exact fault?_ofRef inner .nested
  | .array element _, _ => by
    rw [ScriptType.ofRef, Outcome.fault?_bind_of_ok fun _ => rfl, TypeRef.demands]
    exact fault?_ofRef element .nested
  | .map key value _, _ => by
    rw [ScriptType.ofRef, Outcome.fault?_bind fun _ => (Outcome.fault?_bind_of_ok fun _ => rfl).trans
      (fault?_ofRef value .nested), fault?_ofRef key .nested, TypeRef.demands, Demand.first?_append]
  | .generic identity args, _ => by
    rw [ScriptType.ofRef, Outcome.fault?_bind fun _ => Outcome.fault?_bind_of_ok fun _ => rfl,
      fault?_ofRefs args, TypeRef.demands, Demand.first?_append, Demand.first?_singleton]
    rfl
  | .taskOf inner, _ => by
    rw [ScriptType.ofRef, Outcome.fault?_bind_of_ok fun _ => rfl, TypeRef.demands]
    exact fault?_ofRef inner .nested
  | .unknown managed args, position => by
    rw [ScriptType.ofRef, TypeRef.demands, Demand.first?_singleton, Demand.fault?, TypeHandlers.fault?]
    cases handlers.lookup managed with
    | none => rfl
    | some handler => exact Outcome.fault?_map _ _

theorem fault?_ofRefs : ∀ refs : List TypeRef,
    Outcome.fault? (ScriptType.ofRefs surface handlers space refs) =
      Demand.first? handlers (TypeRef.demandsAll surface space refs)
  | [] => rfl
  | ref :: refs => by
    rw [ScriptType.ofRefs, Outcome.fault?_bind fun _ => (Outcome.fault?_bind_of_ok fun _ => rfl).trans
      (fault?_ofRefs refs), fault?_ofRef ref .nested, TypeRef.demandsAll, Demand.first?_append]

end

theorem fault?_ofMember {member : Member} :
    Outcome.fault? (PropertyDeclaration.ofMember surface handlers space member) =
      Demand.first? handlers (member.shown.demands surface space .member) := by
  obtain ⟨name, scriptName, type⟩ := member
  cases type with
  | _ =>
    rw [PropertyDeclaration.ofMember, Outcome.fault?_bind_of_ok fun _ => rfl]
    exact fault?_ofRef _ .member

end References

/-! ### Enumerations -/

theorem fault?_writtenNumber_eq_none_iff {n : Int} :
    Outcome.fault? (writtenNumber n) = none ↔ IntegerLiteral.IsShort n := by
  rw [writtenNumber]
  split
  · rename_i hshort
    exact iff_of_true rfl hshort
  · rename_i hlong
    exact iff_of_false nofun hlong

namespace EnumMember

variable {values : List EnumValue} {next : Int} {handlers : TypeHandlers}

theorem fault?_numbered (entry : EnumValue) :
    Outcome.fault? (numbered entry) = Outcome.fault? (writtenNumber entry.value) := by
  rw [numbered, Outcome.fault?_bind_of_ok fun _ => rfl]

theorem mem_of_mem_numberedFrom {entry : EnumValue} (hentry : entry ∈ numberedFrom next values) :
    entry ∈ values := by
  induction values generalizing next with
  | nil => exact hentry
  | cons first rest ih =>
    rw [numberedFrom] at hentry
    split at hentry
    · exact List.mem_cons_of_mem _ (ih hentry)
    · exact (List.mem_cons.1 hentry).elim (fun heq => heq ▸ List.mem_cons_self)
        fun hrest => List.mem_cons_of_mem _ (ih hrest)

theorem exists_of_mem_bareFrom {bare : Value × Bool} (hbare : bare ∈ bareFrom next values) :
    ∃ entry ∈ values, entry.name = bare.1 := by
  induction values generalizing next with
  | nil => cases hbare
  | cons entry rest ih =>
    rw [bareFrom] at hbare
    split at hbare
    · rcases List.mem_cons.1 hbare with rfl | hbare
      · exact ⟨entry, List.mem_cons_self, rfl⟩
      · obtain ⟨other, hother, hname⟩ := ih hbare
        exact ⟨other, List.mem_cons_of_mem _ hother, hname⟩
    · obtain ⟨other, hother, hname⟩ := ih hbare
      exact ⟨other, List.mem_cons_of_mem _ hother, hname⟩

theorem fault?_numbered_eq_none_iff {entry : EnumValue} :
    Outcome.fault? (numbered entry) = none ↔ IntegerLiteral.IsShort entry.value := by
  rw [fault?_numbered, fault?_writtenNumber_eq_none_iff]

theorem ofValuesFrom_cons (next : Int) (entry : EnumValue) (rest : List EnumValue) :
    ofValuesFrom next (entry :: rest) =
      (if entry.value = next then
        (bareName entry.name rest.isEmpty).map fun name => { name, number := none }
      else numbered entry) >>= fun first => (ofValuesFrom (entry.value + 1) rest).map (first :: ·) := by
  have hrest : ∀ first : EnumMember,
      (do return first :: (← ofValuesFrom (entry.value + 1) rest)) =
        (ofValuesFrom (entry.value + 1) rest).map (first :: ·) := by
    intro first
    cases ofValuesFrom (entry.value + 1) rest <;> rfl
  rw [ofValuesFrom]
  simp only [hrest]
  split
  · cases bareName entry.name rest.isEmpty <;> rfl
  · rfl

/-- Where no number is too long, only the names that stand alone can be refused. -/
theorem fault?_ofValuesFrom
    (hshort : ∀ entry ∈ numberedFrom next values, IntegerLiteral.IsShort entry.value) :
    Outcome.fault? (ofValuesFrom next values) = Demand.first? handlers
      ((bareFrom next values).map fun bare => .bare bare.1 bare.2) := by
  induction values generalizing next with
  | nil => rfl
  | cons entry rest ih =>
    rw [numberedFrom] at hshort
    rw [ofValuesFrom_cons, bareFrom]
    split at hshort
    · rename_i hexpected
      rw [if_pos hexpected, if_pos hexpected,
        Outcome.fault?_bind fun _ => (Outcome.fault?_map _ _).trans (ih hshort),
        Outcome.fault?_map, List.map_cons, ← List.singleton_append, Demand.first?_append,
        Demand.first?_singleton]
      rfl
    · rename_i hnumbered
      obtain ⟨hentry, hrest⟩ := List.forall_mem_cons.1 hshort
      rw [if_neg hnumbered, if_neg hnumbered,
        Outcome.fault?_bind fun _ => (Outcome.fault?_map _ _).trans (ih hrest),
        fault?_numbered_eq_none_iff.2 hentry, Option.none_or]

theorem fault?_ofValues (handlers : TypeHandlers) :
    Outcome.fault? (ofValues values) = Demand.first? handlers (demands values) := by
  have hnumbers : Outcome.fault? ((numberedFrom 0 values).mapM numbered) =
      Demand.first? handlers ((numberedFrom 0 values).map (.number ·.value)) := by
    rw [List.map_eq_flatMap]
    refine Outcome.fault?_mapM fun entry _ => ?_
    rw [fault?_numbered, List.findSome?_singleton, Demand.fault?]
  rw [demands, Demand.first?_append, ← hnumbers]
  refine Outcome.fault?_bind_of_made fun members hmembers => fault?_ofValuesFrom fun entry hentry => ?_
  obtain ⟨member, -, hmember⟩ := Outcome.exists_result_of_mem hmembers hentry
  exact fault?_numbered_eq_none_iff.1 (Outcome.fault?_eq_none_iff.2 ⟨member, hmember⟩)

end EnumMember

/-! ### Surfaces -/

section Surfaces

variable {surface : Surface} {handlers : TypeHandlers}

theorem fault?_ofMethod (method : Method) :
    Outcome.fault? (MethodDeclaration.ofMethod surface handlers method) =
      Demand.first? handlers (method.demands surface) := by
  have hparameters : Outcome.fault? (method.arguments.mapM fun argument => do
        let type ← ScriptType.ofRef surface handlers method.scriptSpace .argument argument.type
        return (argument.name.display, type)) =
      Demand.first? handlers (method.arguments.flatMap fun argument =>
        argument.type.demands surface method.scriptSpace .argument) := by
    refine Outcome.fault?_mapM fun argument _ => ?_
    exact (Outcome.fault?_bind_of_ok fun _ => rfl).trans (fault?_ofRef argument.type .argument)
  unfold MethodDeclaration.ofMethod Method.demands
  rw [Demand.first?_append, ← hparameters]
  refine Outcome.fault?_bind fun parameters => ?_
  cases method.kind with
  | event => rfl
  | invokable | function =>
    refine (Outcome.fault?_bind_of_ok fun _ => rfl).trans ?_
    exact (Outcome.fault?_map some _).trans (fault?_ofRef method.returns .result)

theorem fault?_ofType (type : DeclaredType) :
    Outcome.fault? (TypeDeclaration.ofType surface handlers type) =
      Demand.first? handlers (type.demands surface) := by
  obtain ⟨identity, scriptSpace, isValueType, shape⟩ := type
  cases shape with
  | enumeration values =>
    exact (Outcome.fault?_bind_of_ok fun _ => rfl).trans (EnumMember.fault?_ofValues _)
  | object parameters members bases =>
    have hbases : Outcome.fault? (bases.mapM (ScriptType.ofRef surface handlers scriptSpace .nested)) =
        Demand.first? handlers (bases.flatMap (TypeRef.demands surface scriptSpace .nested)) :=
      Outcome.fault?_mapM fun base _ => fault?_ofRef base .nested
    have hmembers : Outcome.fault?
        (members.mapM (PropertyDeclaration.ofMember surface handlers scriptSpace)) =
          Demand.first? handlers (members.flatMap fun member =>
            member.shown.demands surface scriptSpace .member) :=
      Outcome.fault?_mapM fun member _ => fault?_ofMember
    simp only [TypeDeclaration.ofType, DeclaredType.demands]
    rw [← List.singleton_append, ← List.singleton_append (l := List.flatMap _ members),
      List.append_assoc]
    simp only [Demand.first?_append, Demand.first?_singleton, Demand.fault?]
    rw [← hbases, ← hmembers]
    exact Outcome.fault?_bind fun _ => Outcome.fault?_bind fun _ => Outcome.fault?_bind fun _ =>
      Outcome.fault?_bind_of_ok fun _ => rfl

theorem fault?_ofNamespace (space : String) :
    Outcome.fault? (NamespaceDeclaration.ofNamespace surface handlers space) =
      Demand.first? handlers ((surface.typesIn space).flatMap (·.demands surface) ++
        (surface.methodsIn space).flatMap (·.demands surface)) := by
  have htypes : Outcome.fault?
      ((surface.typesIn space).mapM (TypeDeclaration.ofType surface handlers)) =
        Demand.first? handlers ((surface.typesIn space).flatMap (·.demands surface)) :=
    Outcome.fault?_mapM fun type _ => fault?_ofType type
  have hmethods : Outcome.fault?
      ((surface.methodsIn space).mapM (MethodDeclaration.ofMethod surface handlers)) =
        Demand.first? handlers ((surface.methodsIn space).flatMap (·.demands surface)) :=
    Outcome.fault?_mapM fun method _ => fault?_ofMethod method
  unfold NamespaceDeclaration.ofNamespace
  rw [Outcome.fault?_bind fun _ => (Outcome.fault?_bind_of_ok fun _ => rfl).trans hmethods, htypes,
    Demand.first?_append]

/-- The declarations fail with the first demand that is not met, in the order they are written in. -/
theorem fault?_ofSurface :
    Outcome.fault? (NamespaceDeclaration.ofSurface surface handlers) =
      Demand.first? handlers surface.demands := by
  unfold NamespaceDeclaration.ofSurface Surface.demands Demand.first?
  rw [Outcome.fault?_mapM fun space _ => fault?_ofNamespace space, flatMap_filter_of_eq_nil]
  intro space hempty
  rw [Bool.not_eq_false', Bool.and_eq_true, List.isEmpty_iff, List.isEmpty_iff] at hempty
  rw [hempty.1, hempty.2]
  rfl

end Surfaces

/-! ### Where demands come from -/

namespace TypeRef

/-- The position that handlers are told for the unknown types in a reference: its own if it is one of
them, and else that of a part. -/
def askedAt (position : Position) : TypeRef → Position
  | .unknown .. => position
  | _ => .nested

/-- What a reference demands by itself. -/
def demand? (surface : Surface) (space : String) (position : Position) : TypeRef → Option Demand
  | .generic _ args => some (.joined (args.map (ScriptType.joinedAs surface space)))
  | .unknown managed _ => some (.handled { position, space, managed })
  | _ => none

section Parts

variable {surface : Surface} {space : String} {demand : Demand}

theorem askedAt_nested (ref : TypeRef) : ref.askedAt .nested = .nested := by
  cases ref <;> rfl

mutual

/-- Each demand is one of a part. What is in an unknown type is no part of a reference. -/
theorem mem_demands_iff : ∀ (ref : TypeRef) (position : Position),
    demand ∈ ref.demands surface space position ↔
      ∃ part ∈ ref.walk, part.demand? surface space (ref.askedAt position) = some demand
  | .primitive .., _ | .custom _, _ | .task, _ | .parameter .., _ => by
    simp [demands, walk, demand?]
  | .unknown .., _ => by
    simp [demands, walk, demand?, askedAt, eq_comm]
  | .nullable inner, _ | .array inner _, _ | .taskOf inner, _ => by
    have hinner := mem_demands_iff inner .nested
    rw [askedAt_nested] at hinner
    simp [demands, walk, demand?, askedAt, hinner]
  | .map key value _, _ => by
    have hkey := mem_demands_iff key .nested
    have hvalue := mem_demands_iff value .nested
    rw [askedAt_nested] at hkey hvalue
    simp [demands, walk, demand?, askedAt, hkey, hvalue, or_and_right, exists_or]
  | .generic identity args, _ => by
    simp [demands, walk, demand?, askedAt, mem_demandsAll_iff args, or_comm, eq_comm]

theorem mem_demandsAll_iff : ∀ refs : List TypeRef,
    demand ∈ demandsAll surface space refs ↔
      ∃ part ∈ walkAll refs, part.demand? surface space .nested = some demand
  | [] => by simp [demandsAll, walkAll]
  | ref :: refs => by
    have hfirst := mem_demands_iff ref .nested
    rw [askedAt_nested] at hfirst
    simp [demandsAll, walkAll, hfirst, mem_demandsAll_iff refs, or_and_right, exists_or]

end

end Parts

end TypeRef

/-- A reference stands at a position in what is declared in a namespace. -/
inductive Surface.Shows (surface : Surface) : String → Position → TypeRef → Prop
  | argument {method : Method} {argument : Argument} :
    method ∈ surface.methods → argument ∈ method.arguments →
    Shows surface method.scriptSpace .argument argument.type
  | result {method : Method} :
    method ∈ surface.methods → method.kind ≠ .event →
    Shows surface method.scriptSpace .result method.returns
  | member {type : DeclaredType} {member : Member} :
    type ∈ surface.types → member ∈ type.members →
    Shows surface type.scriptSpace .member member.shown
  | base {type : DeclaredType} {base : TypeRef} :
    type ∈ surface.types → base ∈ type.bases → Shows surface type.scriptSpace .nested base

/-- What the declaration of a type demands apart from the types of its members and its bases. -/
def DeclaredType.ownDemands (surface : Surface) (type : DeclaredType) : List Demand :=
  match type.shape with
  | .enumeration values => EnumMember.demands values
  | .object parameters _ bases =>
    [.joined parameters, .joined (bases.map (ScriptType.joinedAs surface type.scriptSpace))]

section Surfaces

variable {surface : Surface} {demand : Demand}

theorem DeclaredType.mem_demands_iff {type : DeclaredType} :
    demand ∈ type.demands surface ↔ demand ∈ type.ownDemands surface ∨
      (∃ base ∈ type.bases, demand ∈ base.demands surface type.scriptSpace .nested) ∨
        ∃ member ∈ type.members, demand ∈ member.shown.demands surface type.scriptSpace .member := by
  obtain ⟨identity, scriptSpace, isValueType, shape⟩ := type
  cases shape with
  | enumeration values => simp [demands, ownDemands, bases, members]
  | object parameters members bases =>
    simp only [demands, ownDemands, DeclaredType.bases, DeclaredType.members, List.mem_append,
      List.mem_cons, List.mem_flatMap, List.not_mem_nil, or_false]
    exact or_or_or_comm

theorem Method.mem_demands_iff {method : Method} :
    demand ∈ method.demands surface ↔
      (∃ argument ∈ method.arguments,
        demand ∈ argument.type.demands surface method.scriptSpace .argument) ∨
      method.kind ≠ .event ∧ demand ∈ method.returns.demands surface method.scriptSpace .result := by
  unfold demands
  cases method.kind <;> simp

/-- To go through the namespaces is to go through all that stands in one of them. -/
theorem exists_mem_filter_space_iff {α : Type} {spaceOf : α → String} {items : List α}
    {spaces : List String} {p : α → Prop} (hplaced : ∀ item ∈ items, spaceOf item ∈ spaces) :
    (∃ space ∈ spaces, ∃ item ∈ items.filter (spaceOf · == space), p item) ↔
      ∃ item ∈ items, p item := by
  constructor
  · rintro ⟨space, -, item, hitem, hholds⟩
    exact ⟨item, List.mem_of_mem_filter hitem, hholds⟩
  · rintro ⟨item, hitem, hholds⟩
    exact ⟨_, hplaced item hitem, item, List.mem_filter.2 ⟨hitem, beq_self_eq_true _⟩, hholds⟩

/-- What a surface demands is what its types demand by themselves and what the references in it do. -/
theorem Surface.Placed.mem_demands_iff (hplaced : surface.Placed) :
    demand ∈ surface.demands ↔ (∃ type ∈ surface.types, demand ∈ type.ownDemands surface) ∨
      ∃ space position ref, surface.Shows space position ref ∧
        demand ∈ ref.demands surface space position := by
  have hspaces : demand ∈ surface.demands ↔ (∃ type ∈ surface.types, demand ∈ type.demands surface) ∨
      ∃ method ∈ surface.methods, demand ∈ method.demands surface := by
    rw [← exists_mem_filter_space_iff hplaced.types, ← exists_mem_filter_space_iff hplaced.methods]
    simp only [Surface.demands, Surface.typesIn, Surface.methodsIn, List.mem_flatMap, List.mem_append,
      and_or_left, exists_or]
  rw [hspaces]
  constructor
  · rintro (⟨type, htype, hdemand⟩ | ⟨method, hmethod, hdemand⟩)
    · rcases DeclaredType.mem_demands_iff.1 hdemand with hown | ⟨base, hbase, hdemand⟩ |
        ⟨member, hmember, hdemand⟩
      · exact .inl ⟨type, htype, hown⟩
      · exact .inr ⟨_, _, _, .base htype hbase, hdemand⟩
      · exact .inr ⟨_, _, _, .member htype hmember, hdemand⟩
    · rcases Method.mem_demands_iff.1 hdemand with ⟨argument, hargument, hdemand⟩ | ⟨hkind, hdemand⟩
      · exact .inr ⟨_, _, _, .argument hmethod hargument, hdemand⟩
      · exact .inr ⟨_, _, _, .result hmethod hkind, hdemand⟩
  · rintro (⟨type, htype, hown⟩ | ⟨space, position, ref, hshows, hdemand⟩)
    · exact .inl ⟨type, htype, DeclaredType.mem_demands_iff.2 (.inl hown)⟩
    · cases hshows with
      | argument hmethod hargument =>
        exact .inr ⟨_, hmethod, Method.mem_demands_iff.2 (.inl ⟨_, hargument, hdemand⟩)⟩
      | result hmethod hkind =>
        exact .inr ⟨_, hmethod, Method.mem_demands_iff.2 (.inr ⟨hkind, hdemand⟩)⟩
      | member htype hmember =>
        exact .inl ⟨_, htype, DeclaredType.mem_demands_iff.2 (.inr (.inr ⟨_, hmember, hdemand⟩))⟩
      | base htype hbase =>
        exact .inl ⟨_, htype, DeclaredType.mem_demands_iff.2 (.inr (.inl ⟨_, hbase, hdemand⟩))⟩

end Surfaces

end ScriptBridge
