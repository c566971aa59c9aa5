import Mathlib
import ScriptBridge.Proofs.Surface.Placement
import ScriptBridge.Proofs.Surface.Tree
import ScriptBridge.Surface.Tree

/-!
# The tree of a surface

The tree of a surface is built by insertion: of its namespaces, and then of its methods and types one by
one, each into the node that its own namespace leads to. What comes of it is the tree of the segments of the
namespaces with every node filled at once, with the methods and types that have its segments.
-/

namespace ScriptBridge

/-! ### Trees filled at once -/

namespace Surface

/-- The types whose namespaces have the segments of a path. -/
def typesAt (surface : Surface) (path : List String) : List DeclaredType :=
  surface.types.filter fun type => Namespace.segments type.scriptSpace == path

mutual

/-- The node of a path with the methods and types that stand there, and those that a tree of names places
inside it. -/
def nodeAt (surface : Surface) (name : String) (path : List String) : NameTree → NamespaceNode
  | .node children =>
    .node name (Text.dotted path) (surface.methodsAt path) (surface.typesAt path)
      (nodesIn surface path children)

def nodesIn (surface : Surface) (path : List String) :
    List (String × NameTree) → List NamespaceNode
  | [] => []
  | (name, tree) :: rest =>
    nodeAt surface name (path ++ [name]) tree :: nodesIn surface path rest

end

/-- The segments of the namespaces of a surface. -/
def names (surface : Surface) : NameTree :=
  .ofPaths (surface.namespaces.map Namespace.segments)

section Nodes

variable {surface other : Surface} {name : String} {path : List String} {tree : NameTree}
  {children : List (String × NameTree)}

theorem nodesIn_eq_map (surface : Surface) (path : List String)
    (children : List (String × NameTree)) :
    surface.nodesIn path children =
      children.map fun (name, tree) => surface.nodeAt name (path ++ [name]) tree := by
  induction children with
  | nil => rfl
  | cons entry children ih => rw [nodesIn, ih, List.map_cons]

theorem nodeAt_node : surface.nodeAt name path (.node children) =
    .node name (Text.dotted path) (surface.methodsAt path) (surface.typesAt path)
      (children.map fun (name, tree) => surface.nodeAt name (path ++ [name]) tree) := by
  rw [nodeAt, nodesIn_eq_map]

@[simp]
theorem name_nodeAt : (surface.nodeAt name path tree).name = name := by
  cases tree
  rfl

theorem nodeAt_leaf (hmethods : surface.methodsAt path = []) (htypes : surface.typesAt path = []) :
    surface.nodeAt name path .leaf = .empty name (Text.dotted path) := by
  rw [NameTree.leaf, nodeAt, hmethods, htypes]
  rfl

/-- The node of a path depends on what stands at the paths below alone. -/
theorem nodeAt_congr
    (hmethods : ∀ below, path <+: below → other.methodsAt below = surface.methodsAt below)
    (htypes : ∀ below, path <+: below → other.typesAt below = surface.typesAt below) :
    other.nodeAt name path tree = surface.nodeAt name path tree := by
  induction tree generalizing name path with
  | node children ih =>
    rw [nodeAt_node, nodeAt_node, hmethods path List.prefix_rfl, htypes path List.prefix_rfl]
    congr 1
    refine List.map_congr_left fun entry hentry => ih entry hentry ?_ ?_
    · exact fun below hbelow => hmethods below ((List.prefix_append path [entry.1]).trans hbelow)
    · exact fun below hbelow => htypes below ((List.prefix_append path [entry.1]).trans hbelow)

end Nodes

end Surface

/-! ### Inserting namespaces -/

theorem Namespace.ne_empty_of_mem_segments {space name : String} (hname : name ∈ segments space) :
    name ≠ "" := by
  rintro rfl
  simpa using (List.mem_filter.1 hname).2

namespace NamespaceNode

theorem dotted_ne_empty {path : List String} (hpath : path ≠ []) (hnames : ∀ name ∈ path, name ≠ "") :
    Text.dotted path ≠ "" := by
  unfold Text.dotted
  cases path with
  | nil => exact absurd rfl hpath
  | cons first rest =>
    have hfirst : first ≠ "" := hnames first List.mem_cons_self
    cases rest with
    | nil => simpa using hfirst
    | cons second rest =>
      rw [String.intercalate_cons_cons]
      simp [hfirst]

theorem pathInside_dotted {path : List String} (hnames : ∀ name ∈ path, name ≠ "") (segment : String) :
    pathInside (Text.dotted path) segment = Text.dotted (path ++ [segment]) := by
  by_cases hpath : path = []
  · subst hpath
    simp [pathInside, Text.dotted]
  · rw [pathInside, if_neg (by simpa using dotted_ne_empty hpath hnames), Text.dotted, Text.dotted,
      String.intercalate_append_of_ne_nil hpath (List.cons_ne_nil _ _), String.intercalate_singleton]

section Change

variable {f : NamespaceNode → NamespaceNode} {segment : String} {rest : List String}
  {name path : String} {methods : List Method} {types : List DeclaredType}
  {children : List NamespaceNode}

theorem change_cons_of_mem (hmem : segment ∈ children.map (·.name)) :
    (node name path methods types children).change f (segment :: rest) =
      .node name path methods types
        (children.map fun child => if child.name == segment then child.change f rest else child) := by
  have hany : children.any (·.name == segment) = true := by
    simpa using hmem
  rw [change, if_pos hany]

theorem change_cons_of_not_mem (hmem : segment ∉ children.map (·.name)) :
    (node name path methods types children).change f (segment :: rest) =
      .node name path methods types
        (children ++ [(empty segment (pathInside path segment)).change f rest]) := by
  have hany : ¬ children.any (·.name == segment) = true := by
    simpa using hmem
  rw [change, if_neg hany]

end Change

end NamespaceNode

namespace Surface

section Insertion

variable {surface after : Surface} {name : String} {path rest place : List String} {tree : NameTree}
  {children : List (String × NameTree)}

theorem map_name_nodes :
    (children.map fun (name, tree) => surface.nodeAt name (path ++ [name]) tree).map (·.name) =
      children.map (·.1) := by
  rw [List.map_map]
  exact List.map_congr_left fun entry _ => name_nodeAt

/-- A namespace is inserted into the tree of nodes as its segments are into the tree of names. -/
theorem nodeAt_insert (hmethods : ∀ path, surface.methodsAt path = [])
    (htypes : ∀ path, surface.typesAt path = []) (hpath : ∀ name ∈ path, name ≠ "")
    (hplace : ∀ name ∈ place, name ≠ "") :
    surface.nodeAt name path (tree.insert place) = (surface.nodeAt name path tree).change id place := by
  induction place generalizing name path tree with
  | nil => rfl
  | cons segment rest ih =>
    obtain ⟨children⟩ := tree
    have hrest : ∀ name ∈ rest, name ≠ "" := fun other hother =>
      hplace other (List.mem_cons_of_mem _ hother)
    have hinner : ∀ name ∈ path ++ [segment], name ≠ "" := by
      intro other hother
      rcases List.mem_append.1 hother with hold | hlast
      · exact hpath other hold
      · exact List.mem_singleton.1 hlast ▸ hplace segment List.mem_cons_self
    by_cases hmem : segment ∈ children.map (·.1)
    · rw [NameTree.insert_cons_of_mem hmem, nodeAt_node, nodeAt_node,
        NamespaceNode.change_cons_of_mem (by rwa [map_name_nodes]), List.map_map, List.map_map]
      congr 1
      refine List.map_congr_left fun entry hentry => ?_
      simp only [Function.comp_apply, name_nodeAt]
      split
      · rename_i hname
        rw [beq_iff_eq.1 hname]
        exact ih hinner hrest
      · rfl
    · have hlast : surface.nodeAt segment (path ++ [segment]) (NameTree.leaf.insert rest) =
          (NamespaceNode.empty segment (NamespaceNode.pathInside (Text.dotted path) segment)).change id
            rest := by
        rw [ih hinner hrest, nodeAt_leaf (hmethods _) (htypes _), NamespaceNode.pathInside_dotted hpath]
      rw [NameTree.insert_cons_of_not_mem hmem, nodeAt_node, nodeAt_node,
        NamespaceNode.change_cons_of_not_mem (by rwa [map_name_nodes]), List.map_append,
        List.map_singleton, ← hlast]

/-- A surface has one more thing than another, at a place where a change of its node puts it. -/
structure Grows (surface after : Surface) (place : List String)
    (f : NamespaceNode → NamespaceNode) : Prop where
  methods : ∀ path ≠ place, after.methodsAt path = surface.methodsAt path
  types : ∀ path ≠ place, after.typesAt path = surface.typesAt path
  here : ∀ name path children,
    f (.node name path (surface.methodsAt place) (surface.typesAt place) children) =
      .node name path (after.methodsAt place) (after.typesAt place) children

theorem Grows.nodeAt_eq_of_not_prefix {f : NamespaceNode → NamespaceNode}
    (hgrows : Grows surface after place f) (houtside : ¬ path <+: place) :
    after.nodeAt name path tree = surface.nodeAt name path tree := by
  have hne : ∀ below, path <+: below → below ≠ place := fun below hbelow heq =>
    houtside (heq ▸ hbelow)
  exact nodeAt_congr (fun below hbelow => hgrows.methods below (hne below hbelow))
    fun below hbelow => hgrows.types below (hne below hbelow)

/-- What a surface has more is put into the tree of nodes by a change at its place, provided that the names
of the tree lead there. -/
theorem Grows.nodeAt_eq {f : NamespaceNode → NamespaceNode} (hgrows : Grows surface after place f)
    (hplace : path ++ rest = place) (hdistinct : tree.Distinct) (hhas : tree.Has rest) :
    after.nodeAt name path tree = (surface.nodeAt name path tree).change f rest := by
  induction rest generalizing name path tree with
  | nil =>
    obtain ⟨children⟩ := tree
    rw [List.append_nil] at hplace
    subst hplace
    rw [nodeAt_node, nodeAt_node, NamespaceNode.change, hgrows.here]
    congr 1
    refine List.map_congr_left fun entry _ => hgrows.nodeAt_eq_of_not_prefix fun hprefix => ?_
    simpa using hprefix.length_le
  | cons segment rest ih =>
    obtain @⟨children, hnames, hchildren⟩ := hdistinct
    obtain ⟨inner, hinner, hrest⟩ := NameTree.has_node_cons_iff.1 hhas
    have hmem : segment ∈ children.map (·.1) := List.mem_map_of_mem hinner
    have hne : path ≠ place := by
      rintro rfl
      simpa using congrArg List.length hplace
    rw [nodeAt_node, nodeAt_node, NamespaceNode.change_cons_of_mem (by rwa [map_name_nodes]),
      hgrows.methods path hne, hgrows.types path hne, List.map_map]
    congr 1
    refine List.map_congr_left fun entry hentry => ?_
    simp only [Function.comp_apply, name_nodeAt]
    split
    · rename_i hname
      obtain rfl : entry = (segment, inner) :=
        List.inj_on_of_nodup_map hnames hentry hinner (beq_iff_eq.1 hname)
      exact ih (by rw [← hplace, List.append_assoc, List.singleton_append]) (hchildren _ hentry) hrest
    · rename_i hname
      refine hgrows.nodeAt_eq_of_not_prefix fun hprefix => hname ?_
      rw [← hplace, List.prefix_append_right_inj, List.cons_prefix_cons] at hprefix
      exact beq_iff_eq.2 hprefix.1

theorem distinct_names (surface : Surface) : surface.names.Distinct :=
  NameTree.distinct_ofPaths _

theorem has_names {space : String} (hspace : space ∈ surface.namespaces) :
    surface.names.Has (Namespace.segments space) :=
  NameTree.has_ofPaths_iff.2 (.inr ⟨_, List.mem_map_of_mem hspace, List.prefix_rfl⟩)

theorem lookup_nodes {space : String} (hspace : space ∈ surface.namespaces) :
    surface.nodes.lookup space = some (Namespace.segments space) :=
  List.lookup_graph Namespace.segments hspace

theorem foldl_change_nodes (surface : Surface) :
    surface.nodes.foldl (fun root (_, place) => root.change id place) (.empty "" "") =
      ({} : Surface).nodeAt "" [] surface.names := by
  have hfold : ∀ tree : NameTree,
      surface.nodes.foldl (fun root (_, place) => root.change id place)
          (({} : Surface).nodeAt "" [] tree) =
        ({} : Surface).nodeAt "" []
          ((surface.namespaces.map Namespace.segments).foldl (fun tree path => tree.insert path)
            tree) := by
    unfold nodes
    induction surface.namespaces with
    | nil => exact fun _ => rfl
    | cons space spaces ih =>
      intro tree
      rw [List.map_cons, List.map_cons, List.foldl_cons, List.foldl_cons, ← ih]
      congr 1
      exact (nodeAt_insert (fun _ => rfl) (fun _ => rfl) (List.forall_mem_nil _) fun _ hname =>
        Namespace.ne_empty_of_mem_segments hname).symm
  exact hfold .leaf

/-- Items are put into the nodes of their namespaces one after another. -/
theorem foldlM_change_nodes {α : Type} {spaceOf : α → String} {add : α → NamespaceNode → NamespaceNode}
    {grow : List α → Surface} {items : List α}
    (hgrows : ∀ done item, Grows (grow done) (grow (done ++ [item]))
      (Namespace.segments (spaceOf item)) (add item))
    (hplaced : ∀ item ∈ items, spaceOf item ∈ surface.namespaces) (done : List α) :
    items.foldlM (fun root item => do
        return root.change (add item) (← surface.nodes.lookup (spaceOf item)))
        ((grow done).nodeAt "" [] surface.names) =
      some ((grow (done ++ items)).nodeAt "" [] surface.names) := by
  induction items generalizing done with
  | nil =>
    rw [List.append_nil]
    rfl
  | cons item items ih =>
    have hspace := hplaced item List.mem_cons_self
    have hrest := ih (fun other hother => hplaced other (List.mem_cons_of_mem _ hother))
      (done ++ [item])
    rw [List.append_assoc, List.singleton_append] at hrest
    rw [List.foldlM_cons, lookup_nodes hspace, ← hrest,
      (hgrows done item).nodeAt_eq rfl surface.distinct_names (has_names hspace)]
    rfl

theorem grows_methods (types : List DeclaredType) (done : List Method) (method : Method) :
    Grows { methods := done, types } { methods := done ++ [method], types }
      (Namespace.segments method.scriptSpace) (.addMethod method) where
  methods path hpath := by
    simp [methodsAt, Ne.symm hpath]
  types _ _ := rfl
  here name path children := by
    simp [NamespaceNode.addMethod, methodsAt, typesAt]

theorem grows_types (methods : List Method) (done : List DeclaredType) (type : DeclaredType) :
    Grows { methods, types := done } { methods, types := done ++ [type] }
      (Namespace.segments type.scriptSpace) (.addType type) where
  methods _ _ := rfl
  types path hpath := by
    simp [typesAt, Ne.symm hpath]
  here name path children := by
    simp [NamespaceNode.addType, methodsAt, typesAt]

/-- Where everything stands in one of the namespaces, no node is missed, and the tree that is built has in
every node the methods and types with its segments. -/
theorem tree?_eq (hmethods : ∀ method ∈ surface.methods, method.scriptSpace ∈ surface.namespaces)
    (htypes : ∀ type ∈ surface.types, type.scriptSpace ∈ surface.namespaces) :
    surface.tree? = some (surface.nodeAt "" [] surface.names) := by
  have hmade := foldlM_change_nodes (grows_methods []) hmethods []
  have hfilled := foldlM_change_nodes (grows_types surface.methods) htypes []
  unfold tree?
  rw [foldl_change_nodes]
  refine Option.bind_eq_some_iff.2 ⟨_, hmade, hfilled.trans (congrArg some ?_)⟩
  exact nodeAt_congr (fun _ _ => rfl) fun _ _ => rfl

end Insertion

end Surface

theorem Surface.Placed.tree?_eq {surface : Surface} (hplaced : surface.Placed) :
    surface.tree? = some surface.root ∧ surface.root = surface.nodeAt "" [] surface.names := by
  have htree := Surface.tree?_eq hplaced.methods hplaced.types
  rw [Surface.root, htree]
  exact ⟨rfl, rfl⟩

end ScriptBridge
