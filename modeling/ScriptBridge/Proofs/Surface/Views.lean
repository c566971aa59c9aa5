import Mathlib
import ScriptBridge.Proofs.Surface.Insertion
import ScriptBridge.Proofs.TypeRef.Declared

/-!
# The views of a surface

A surface shows its methods and types in three ways: as lists, namespace by namespace, and in the
tree of its namespaces. The three agree.
-/

namespace ScriptBridge

/-! ### Namespace by namespace -/

section Items

variable {α : Type} (spaceOf : α → String) (items : List α)

/-- The items of one namespace are in none of the others. -/
theorem filter_space_filter_not {space other : String} (hne : other ≠ space) :
    (items.filter (!spaceOf · == space)).filter (spaceOf · == other) =
      items.filter (spaceOf · == other) := by
  rw [List.filter_filter]
  refine List.filter_congr fun item _ => ?_
  by_cases hitem : spaceOf item = other
  · simp [hitem, hne]
  · simp [hitem]

/-- Items that stand in some distinct namespaces, namespace by namespace. -/
theorem perm_flatMap_filter_space {spaceOf : α → String} {items : List α} {spaces : List String}
    (hdistinct : spaces.Nodup) (hplaced : ∀ item ∈ items, spaceOf item ∈ spaces) :
    (spaces.flatMap fun space => items.filter (spaceOf · == space)).Perm items := by
  induction spaces generalizing items with
  | nil =>
    have hnone : items = [] := List.eq_nil_iff_forall_not_mem.2 fun item hitem =>
      List.not_mem_nil (hplaced item hitem)
    rw [hnone]
    exact .nil
  | cons space rest ih =>
    obtain ⟨hspace, hrest⟩ := List.nodup_cons.1 hdistinct
    have hothers : ∀ item ∈ items.filter (!spaceOf · == space), spaceOf item ∈ rest := by
      intro item hitem
      obtain ⟨hmem, hne⟩ := List.mem_filter.1 hitem
      exact (List.mem_cons.1 (hplaced item hmem)).resolve_left (by simpa using hne)
    have hunchanged : ∀ other ∈ rest,
        (items.filter (!spaceOf · == space)).filter (spaceOf · == other) =
          items.filter (spaceOf · == other) := by
      intro other hother
      exact filter_space_filter_not spaceOf items fun heq => hspace (heq ▸ hother)
    have htail := ih hrest hothers
    rw [List.flatMap_congr hunchanged] at htail
    rw [List.flatMap_cons]
    exact (htail.append_left _).trans (List.filter_append_perm (spaceOf · == space) items)

end Items

/-! ### Namespaces that are seen -/

/-- A method or a type stands in a namespace. -/
def Surface.Holds (surface : Surface) (space : String) : Prop :=
  (∃ method ∈ surface.methods, method.scriptSpace = space) ∨
    ∃ type ∈ surface.types, type.scriptSpace = space

/-- A namespace is seen with the method or the type that stands in it. -/
theorem kept_holds :
    Discovery.Kept fun found => ∀ space ∈ found.namespaces, found.surface.Holds space where
  record _ _ _ hholds := hholds
  warn _ _ hholds := hholds
  asked _ _ hholds := hholds
  claim _ _ hholds := hholds
  addMethod found _ method hholds _ := by
    intro space hspace
    rw [Discovery.namespaces_addMethod, Discovery.mem_namespaces_see] at hspace
    have hmethods : (found.addMethod method).surface.methods = found.methods ++ [method] :=
      found.methods_addMethod method
    have htypes : (found.addMethod method).surface.types = found.types :=
      found.types_addMethod method
    rw [Surface.Holds, hmethods, htypes]
    rcases hspace with rfl | hseen
    · exact .inl ⟨method, by simp, rfl⟩
    · rcases hholds space hseen with ⟨other, hother, hspace⟩ | htype
      · exact .inl ⟨other, List.mem_append_left _ hother, hspace⟩
      · exact .inr htype
  addType found _ type hholds _ := by
    intro space hspace
    rw [Discovery.namespaces_addType, Discovery.mem_namespaces_see] at hspace
    have hmethods : (found.addType type).surface.methods = found.methods :=
      found.methods_addType type
    have htypes : (found.addType type).surface.types = found.types ++ [type] :=
      found.types_addType type
    rw [Surface.Holds, hmethods, htypes]
    rcases hspace with rfl | hseen
    · exact .inr ⟨type, by simp, rfl⟩
    · rcases hholds space hseen with hmethod | ⟨other, hother, hspace⟩
      · exact .inl hmethod
      · exact .inr ⟨other, List.mem_append_left _ hother, hspace⟩

theorem holds_of_inspect {inspector : Inspector} {modules : List Descriptor} {surface : Surface}
    (hinspect : (inspector.inspect modules).result = .ok surface) :
    ∀ space ∈ surface.namespaces, surface.Holds space := by
  obtain ⟨warnings, log, after, htakes, rfl⟩ := takes_of_inspect hinspect
  exact kept_holds.of_takes htakes fun _ hspace => nomatch hspace

/-! ### Nodes of the tree -/

/-- A node is reached from another through nodes of some names, each inside the one before. -/
inductive NamespaceNode.Reaches : NamespaceNode → List String → NamespaceNode → Prop
  | here (node : NamespaceNode) : Reaches node [] node
  | inside {node child last : NamespaceNode} {names : List String} :
    child ∈ node.children → Reaches child names last → Reaches node (child.name :: names) last

namespace Surface

section Nodes

variable {surface : Surface} {name : String} {path names : List String} {tree : NameTree}
  {node : NamespaceNode}

@[simp]
theorem path_nodeAt : (surface.nodeAt name path tree).path = Text.dotted path := by
  cases tree
  rfl

@[simp]
theorem methods_nodeAt : (surface.nodeAt name path tree).methods = surface.methodsAt path := by
  cases tree
  rfl

@[simp]
theorem types_nodeAt : (surface.nodeAt name path tree).types = surface.typesAt path := by
  cases tree
  rfl

theorem children_nodeAt :
    (surface.nodeAt name path tree).children =
      tree.children.map fun (name, tree) => surface.nodeAt name (path ++ [name]) tree := by
  obtain ⟨children⟩ := tree
  rw [nodeAt_node]
  rfl

theorem names_children_nodeAt :
    (surface.nodeAt name path tree).children.map (·.name) = tree.children.map (·.1) := by
  rw [children_nodeAt, List.map_map]
  exact List.map_congr_left fun entry _ => name_nodeAt

/-- What is reached from the node of a tree is the node of one of its subtrees. -/
theorem exists_subtree_of_reaches (hdistinct : tree.Distinct)
    (hreaches : (surface.nodeAt name path tree).Reaches names node) :
    tree.Has names ∧
      ∃ last subtree, subtree.Distinct ∧ node = surface.nodeAt last (path ++ names) subtree := by
  induction names generalizing name path tree with
  | nil =>
    cases hreaches
    exact ⟨.here tree, name, tree, hdistinct, by rw [List.append_nil]⟩
  | cons first rest ih =>
    obtain @⟨children, -, hchildren⟩ := hdistinct
    generalize hsource : surface.nodeAt name path (.node children) = source at hreaches
    cases hreaches with
    | inside hchild hreaches =>
      rw [← hsource, children_nodeAt] at hchild
      obtain ⟨⟨first, tree⟩, hentry, rfl⟩ := List.mem_map.1 hchild
      obtain ⟨hhas, last, subtree, hsubtree, rfl⟩ := ih (hchildren _ hentry) hreaches
      refine ⟨?_, last, subtree, hsubtree, ?_⟩
      · rw [name_nodeAt]
        exact .inside hentry hhas
      · rw [name_nodeAt, List.append_assoc, List.singleton_append]

theorem exists_reaches_of_has (hhas : tree.Has names) (name : String) (path : List String) :
    ∃ node, (surface.nodeAt name path tree).Reaches names node := by
  induction hhas generalizing name path with
  | here tree => exact ⟨_, .here _⟩
  | @inside children first tree rest hmem _ ih =>
    obtain ⟨node, hreaches⟩ := ih first (path ++ [first])
    have hchild : surface.nodeAt first (path ++ [first]) tree ∈
        (surface.nodeAt name path (.node children)).children := by
      rw [children_nodeAt]
      exact List.mem_map_of_mem hmem
    have hinside := NamespaceNode.Reaches.inside hchild hreaches
    rw [name_nodeAt] at hinside
    exact ⟨node, hinside⟩

theorem exists_reaches_names_iff :
    (∃ node, (surface.nodeAt "" [] surface.names).Reaches names node) ↔
      names = [] ∨ ∃ space ∈ surface.namespaces, names <+: Namespace.segments space := by
  have hhas : (∃ node, (surface.nodeAt "" [] surface.names).Reaches names node) ↔
      surface.names.Has names := by
    constructor
    · rintro ⟨node, hreaches⟩
      exact (exists_subtree_of_reaches surface.distinct_names hreaches).1
    · intro hhas
      exact exists_reaches_of_has hhas "" []
  rw [hhas, Surface.names, NameTree.has_ofPaths_iff]
  simp only [List.mem_map, exists_exists_and_eq_and]

end Nodes

end Surface

/-! ### Agreement -/

/-- The views of a surface agree. Its namespaces are those of its methods and types, each once; taken
namespace by namespace, its methods and types are all there; and its tree can be built, and in it every
namespace, with those around it, is a node that holds just the methods and types with its segments. -/
structure Surface.ViewsAgree (surface : Surface) : Prop where
  distinct : surface.namespaces.Nodup
  mem_namespaces_iff : ∀ space, space ∈ surface.namespaces ↔ surface.Holds space
  methods : (surface.namespaces.flatMap surface.methodsIn).Perm surface.methods
  types : (surface.namespaces.flatMap surface.typesIn).Perm surface.types
  built : surface.tree? = some surface.root
  reached_iff : ∀ names, (∃ node, surface.root.Reaches names node) ↔
    names = [] ∨ ∃ space ∈ surface.namespaces, names <+: Namespace.segments space
  siblings : ∀ names node, surface.root.Reaches names node → (node.children.map (·.name)).Nodup
  path : ∀ names node, surface.root.Reaches names node → node.path = String.intercalate "." names
  methodsOf : ∀ names node, surface.root.Reaches names node →
    node.methods =
      surface.methods.filter fun method => Namespace.segments method.scriptSpace == names
  typesOf : ∀ names node, surface.root.Reaches names node →
    node.types = surface.types.filter fun type => Namespace.segments type.scriptSpace == names
  root : surface.root.methods = [] ∧ surface.root.types = []

theorem Surface.Placed.viewsAgree {surface : Surface} (hplaced : surface.Placed)
    (hholds : ∀ space ∈ surface.namespaces, surface.Holds space) : surface.ViewsAgree := by
  obtain ⟨hbuilt, hroot⟩ := hplaced.tree?_eq
  have hnode : ∀ names node, surface.root.Reaches names node → ∃ last subtree,
      subtree.Distinct ∧ node = surface.nodeAt last names subtree := fun names node hreaches =>
    (exists_subtree_of_reaches surface.distinct_names (hroot ▸ hreaches)).2
  constructor
  case distinct => exact hplaced.distinct
  case mem_namespaces_iff =>
    refine fun space => ⟨hholds space, ?_⟩
    rintro (⟨method, hmethod, rfl⟩ | ⟨type, htype, rfl⟩)
    · exact hplaced.methods method hmethod
    · exact hplaced.types type htype
  case methods => exact perm_flatMap_filter_space hplaced.distinct hplaced.methods
  case types => exact perm_flatMap_filter_space hplaced.distinct hplaced.types
  case built => exact hbuilt
  case reached_iff =>
    rw [hroot]
    exact fun names => exists_reaches_names_iff
  case siblings =>
    intro names node hreaches
    obtain ⟨last, _, @⟨children, hnames, -⟩, rfl⟩ := hnode names node hreaches
    rw [names_children_nodeAt]
    exact hnames
  case path =>
    intro names node hreaches
    obtain ⟨last, subtree, -, rfl⟩ := hnode names node hreaches
    rw [path_nodeAt, Text.dotted]
  case methodsOf =>
    intro names node hreaches
    obtain ⟨last, subtree, -, rfl⟩ := hnode names node hreaches
    exact methods_nodeAt
  case typesOf =>
    intro names node hreaches
    obtain ⟨last, subtree, -, rfl⟩ := hnode names node hreaches
    exact types_nodeAt
  case root =>
    rw [hroot, methods_nodeAt, types_nodeAt]
    refine ⟨List.filter_eq_nil_iff.2 fun method hmethod => ?_,
      List.filter_eq_nil_iff.2 fun type htype => ?_⟩
    · simpa using hplaced.segments_ne_nil.1 method hmethod
    · simpa using hplaced.segments_ne_nil.2 type htype

/-- The views of every surface that inspection gives agree. -/
theorem viewsAgree_of_inspect {inspector : Inspector} {modules : List Descriptor}
    {surface : Surface} (hreachable : inspector.resolver.Reachable)
    (hinspect : (inspector.inspect modules).result = .ok surface) : surface.ViewsAgree :=
  (placed_of_inspect hreachable hinspect).viewsAgree (holds_of_inspect hinspect)

/-! ### A shelf -/

def objectDecl (space name : String) (parameters : List Value) (members : List MemberDecl)
    (isValueType : Bool) : TypeDecl where
  kind := .object
  space := .text space
  name := .text name
  parameters
  members
  items := []
  bases := []
  isValueType

/-- An object type that stands in its own namespace. -/
def objectType (decl : TypeDecl) (members : List Member) : DeclaredType where
  identity := decl.identity
  scriptSpace := decl.space.display
  isValueType := decl.isValueType
  shape := .object decl.parameters members []

def invokableDecl (space owner name returns : String) : MethodDecl where
  kind := "invokable"
  space := .text space
  owner := .text owner
  name := .text name
  parameters := []
  returns := .text returns

/-- An invokable method of the main class of its assembly. -/
def invokableMethod (space owner name scriptName : String) (returns : TypeRef) : Method where
  kind := .invokable
  assembly := .text owner
  owner := .text owner
  space
  scriptSpace := space
  name
  scriptName
  arguments := []
  returns

def itemDecl : TypeDecl := objectDecl "shelf" "Item" [] [] false

/-- A box of items. Its type parameter has the name of the items. -/
def boxDecl : TypeDecl :=
  objectDecl "shelf" "Box" [.text "Item"]
    [{ name := .text "Value", type := .text "shelf.Item", isStatic := false, isComputed := false }]
    false

/-- Two of the methods stand in namespaces of the same segments. -/
def shelfModule : Descriptor where
  assembly := .text "Shelf"
  types := [itemDecl, boxDecl]
  methods :=
    [invokableDecl "shelf" "Shelf" "Open" "Box<int>",
      invokableDecl "shelf.top" "Shelf" "Take" "Item",
      invokableDecl "shelf..top" "Shelf" "Clear" "void"]

def shelfInspector : Inspector where
  resolver := { rules := [] }

def itemType : DeclaredType := objectType itemDecl []

def boxType : DeclaredType :=
  objectType boxDecl
    [{ name := .text "Value", scriptName := .text "value", type := .custom itemDecl.identity }]

def boxMethod : Method :=
  invokableMethod "shelf" "Shelf" "Open" "open"
    (.generic boxDecl.identity [.primitive .number "System.Int32"])

def itemMethod : Method :=
  invokableMethod "shelf.top" "Shelf" "Take" "take" (.custom itemDecl.identity)

def clearMethod : Method :=
  invokableMethod "shelf..top" "Shelf" "Clear" "clear" (.primitive .void "System.Void")

def shelfSurface : Surface where
  methods := [boxMethod, itemMethod, clearMethod]
  types := [boxType, itemType]
  namespaces := ["shelf", "shelf.top", "shelf..top"]

def shelfRegistry : Registry where
  decls := [itemDecl, boxDecl]

theorem describe_boxDecl :
    describe shelfRegistry boxDecl.identity boxDecl "shelf" = .ok boxType := by
  cbv

theorem resolveValue_box :
    shelfRegistry.resolveValue (.text "Box<int>") "shelf" [] = .ok boxMethod.returns :=
  Registry.resolveValue_eq_ok_iff.2
    ⟨_, .mk "Box" [.mk "int" [] []] [], rfl, by cbv, by decide +kernel⟩

theorem resolveValue_item :
    shelfRegistry.resolveValue (.text "Item") "shelf.top" [] = .ok itemMethod.returns :=
  Registry.resolveValue_eq_ok_iff.2 ⟨_, .mk "Item" [] [], rfl, by cbv, by decide +kernel⟩

theorem resolveValue_void_shelf :
    shelfRegistry.resolveValue (.text "void") "shelf..top" [] = .ok clearMethod.returns :=
  Registry.resolveValue_eq_ok_iff.2 ⟨_, .mk "void" [] [], rfl, by cbv, by decide +kernel⟩

theorem inspect_shelfModule : (shelfInspector.inspect [shelfModule]).result = .ok shelfSurface := by
  have hdeclared : declareModules [shelfModule] ({}, { resolver := shelfInspector.resolver }) =
      (shelfRegistry, { resolver := shelfInspector.resolver }) := rfl
  refine inspect_of_takes hdeclared
    ⟨_, .next (.taken rfl rfl rfl rfl rfl rfl rfl resolveValue_box rfl
      (@Explores.described _ _ _ _ _ boxDecl _ boxType rfl rfl rfl rfl describe_boxDecl
        (@Explores.described _ _ _ _ _ itemDecl _ itemType rfl rfl rfl rfl rfl .done)))
      (.next (.taken rfl rfl rfl rfl rfl rfl rfl resolveValue_item rfl (.known rfl .done))
      (.next (.taken rfl rfl rfl rfl rfl rfl rfl resolveValue_void_shelf rfl .done) .done)), ?_⟩
  rfl

theorem reachable_shelfInspector : shelfInspector.resolver.Reachable :=
  @Namespace.Resolver.Reachable.made [] _ rfl

/-- Two methods of three namespaces stand in one node of the tree. -/
theorem viewsAgree_shelfSurface :
    (shelfInspector.inspect [shelfModule]).result = .ok shelfSurface ∧ shelfSurface.ViewsAgree ∧
      ∃ node, shelfSurface.root.Reaches ["shelf", "top"] node ∧
        node.methods = [itemMethod, clearMethod] := by
  have hviews := viewsAgree_of_inspect reachable_shelfInspector inspect_shelfModule
  have hspace : "shelf.top" ∈ shelfSurface.namespaces := by simp [shelfSurface]
  obtain ⟨node, hnode⟩ := (hviews.reached_iff ["shelf", "top"]).2 (.inr ⟨_, hspace, by decide⟩)
  refine ⟨inspect_shelfModule, hviews, node, hnode, ?_⟩
  rw [hviews.methodsOf _ node hnode]
  rfl

end ScriptBridge
