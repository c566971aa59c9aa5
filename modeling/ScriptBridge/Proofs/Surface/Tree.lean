/-!
# Trees of names

The tree of some paths has the prefixes of those paths and no others, and the names of its siblings are
distinct.
-/

namespace ScriptBridge

/-- A tree of names. The names of siblings are distinct. -/
inductive NameTree
  | node (children : List (String × NameTree))
deriving Repr

namespace NameTree

def leaf : NameTree := .node []

def children : NameTree → List (String × NameTree)
  | .node children => children

/-- The tree with a path of names in it. New names stand after the siblings that are there. -/
def insert : List String → NameTree → NameTree
  | [], tree => tree
  | name :: rest, .node children =>
    if children.any (·.1 == name) then
      .node (children.map fun (sibling, tree) =>
        if sibling == name then (sibling, tree.insert rest) else (sibling, tree))
    else .node (children ++ [(name, leaf.insert rest)])

def ofPaths (paths : List (List String)) : NameTree :=
  paths.foldl (fun tree path => tree.insert path) leaf

@[induction_eliminator]
theorem induct {motive : NameTree → Prop}
    (node : ∀ children, (∀ entry ∈ children, motive entry.2) → motive (.node children)) :
    ∀ tree, motive tree
  | .node children => node children fun entry _hentry => induct node entry.2
termination_by tree => sizeOf tree
decreasing_by
  have hlt := List.sizeOf_lt_of_mem _hentry
  rcases entry with ⟨name, tree⟩
  simp only [Prod.mk.sizeOf_spec, NameTree.node.sizeOf_spec] at hlt ⊢
  omega

/-- The tree has a path of names from its root. -/
inductive Has : NameTree → List String → Prop
  | here (tree : NameTree) : Has tree []
  | inside {children : List (String × NameTree)} {name : String} {tree : NameTree}
      {rest : List String} :
    (name, tree) ∈ children → Has tree rest → Has (.node children) (name :: rest)

/-- The names of siblings are distinct, everywhere in the tree. -/
inductive Distinct : NameTree → Prop
  | node {children : List (String × NameTree)} :
    (children.map (·.1)).Nodup → (∀ entry ∈ children, Distinct entry.2) →
    Distinct (.node children)

theorem has_node_cons_iff {children : List (String × NameTree)} {name : String}
    {rest : List String} :
    Has (.node children) (name :: rest) ↔ ∃ tree, (name, tree) ∈ children ∧ tree.Has rest := by
  constructor
  · intro hhas
    cases hhas with
    | inside hmem hinside => exact ⟨_, hmem, hinside⟩
  · rintro ⟨tree, hmem, hinside⟩
    exact .inside hmem hinside

theorem has_leaf_iff {path : List String} : leaf.Has path ↔ path = [] := by
  constructor
  · intro hhas
    cases hhas with
    | here => rfl
    | inside hmem => cases hmem
  · rintro rfl
    exact .here leaf

theorem distinct_leaf : leaf.Distinct :=
  .node List.nodup_nil (by simp)

/-! ### Inserting a path -/

section Insert

variable {children : List (String × NameTree)} {name : String} {rest : List String}

theorem insert_cons_of_mem (hmem : name ∈ children.map (·.1)) :
    (node children).insert (name :: rest) =
      .node (children.map fun (sibling, tree) =>
        if sibling == name then (sibling, tree.insert rest) else (sibling, tree)) := by
  have hany : children.any (·.1 == name) = true := by
    simpa using hmem
  rw [insert, if_pos hany]

theorem insert_cons_of_not_mem (hmem : name ∉ children.map (·.1)) :
    (node children).insert (name :: rest) = .node (children ++ [(name, leaf.insert rest)]) := by
  have hany : ¬ children.any (·.1 == name) = true := by
    simpa using hmem
  rw [insert, if_neg hany]

theorem mem_map_insert_iff {first : String} {tree : NameTree} :
    ((first, tree) ∈ children.map fun (sibling, tree) =>
        if sibling == name then (sibling, tree.insert rest) else (sibling, tree)) ↔
      (first ≠ name ∧ (first, tree) ∈ children) ∨
        (first = name ∧ ∃ old, (name, old) ∈ children ∧ old.insert rest = tree) := by
  rw [List.mem_map]
  constructor
  · rintro ⟨⟨sibling, old⟩, hold, heq⟩
    by_cases hname : sibling = name
    · subst hname
      simp only [beq_self_eq_true, if_true, Prod.mk.injEq] at heq
      obtain ⟨rfl, rfl⟩ := heq
      exact .inr ⟨rfl, old, hold, rfl⟩
    · simp only [beq_iff_eq, hname, if_false, Prod.mk.injEq] at heq
      obtain ⟨rfl, rfl⟩ := heq
      exact .inl ⟨hname, hold⟩
  · rintro (⟨hname, hmem⟩ | ⟨rfl, old, hold, rfl⟩)
    · exact ⟨_, hmem, by simp [hname]⟩
    · exact ⟨_, hold, by simp⟩

theorem map_fst_insert :
    (children.map fun (sibling, tree) =>
        if sibling == name then (sibling, tree.insert rest) else (sibling, tree)).map (·.1) =
      children.map (·.1) := by
  rw [List.map_map]
  refine List.map_congr_left fun entry _ => ?_
  simp only [Function.comp_apply]
  split <;> rfl

theorem has_insert_iff {tree : NameTree} {path other : List String} :
    (tree.insert path).Has other ↔ tree.Has other ∨ other <+: path := by
  induction path generalizing tree other with
  | nil =>
    rw [insert, List.prefix_nil]
    refine ⟨.inl, ?_⟩
    rintro (hhas | rfl)
    · exact hhas
    · exact .here tree
  | cons name rest ih =>
    obtain ⟨children⟩ := tree
    cases other with
    | nil => exact iff_of_true (.here _) (.inl (.here _))
    | cons first more =>
      rw [List.cons_prefix_cons, has_node_cons_iff]
      by_cases hmem : name ∈ children.map (·.1)
      · rw [insert_cons_of_mem hmem, has_node_cons_iff]
        simp only [mem_map_insert_iff]
        constructor
        · rintro ⟨tree, ⟨hname, htree⟩ | ⟨rfl, old, hold, rfl⟩, hhas⟩
          · exact .inl ⟨tree, htree, hhas⟩
          · rcases ih.1 hhas with hhas | hprefix
            · exact .inl ⟨old, hold, hhas⟩
            · exact .inr ⟨rfl, hprefix⟩
        · rintro (⟨tree, htree, hhas⟩ | ⟨rfl, hprefix⟩)
          · by_cases hname : first = name
            · subst hname
              exact ⟨_, .inr ⟨rfl, tree, htree, rfl⟩, ih.2 (.inl hhas)⟩
            · exact ⟨tree, .inl ⟨hname, htree⟩, hhas⟩
          · obtain ⟨⟨_, old⟩, hold, rfl⟩ := List.mem_map.1 hmem
            exact ⟨_, .inr ⟨rfl, old, hold, rfl⟩, ih.2 (.inr hprefix)⟩
      · rw [insert_cons_of_not_mem hmem, has_node_cons_iff]
        simp only [List.mem_append, List.mem_singleton, Prod.mk.injEq]
        constructor
        · rintro ⟨tree, htree | ⟨rfl, rfl⟩, hhas⟩
          · exact .inl ⟨tree, htree, hhas⟩
          · rcases ih.1 hhas with hhas | hprefix
            · exact .inr ⟨rfl, has_leaf_iff.1 hhas ▸ List.nil_prefix⟩
            · exact .inr ⟨rfl, hprefix⟩
        · rintro (⟨tree, htree, hhas⟩ | ⟨rfl, hprefix⟩)
          · exact ⟨tree, .inl htree, hhas⟩
          · exact ⟨_, .inr ⟨rfl, rfl⟩, ih.2 (.inr hprefix)⟩

theorem Distinct.insert {tree : NameTree} (hdistinct : tree.Distinct) (path : List String) :
    (tree.insert path).Distinct := by
  induction path generalizing tree with
  | nil => exact hdistinct
  | cons name rest ih =>
    obtain @⟨children, hnames, hchildren⟩ := hdistinct
    by_cases hmem : name ∈ children.map (·.1)
    · rw [insert_cons_of_mem hmem]
      refine .node (by rwa [map_fst_insert]) ?_
      rintro ⟨first, tree⟩ htree
      rcases mem_map_insert_iff.1 htree with ⟨_, hold⟩ | ⟨_, old, hold, rfl⟩
      · exact hchildren _ hold
      · exact ih (hchildren _ hold)
    · rw [insert_cons_of_not_mem hmem]
      refine .node ?_ ?_
      · rw [List.map_append, List.nodup_append]
        refine ⟨hnames, List.pairwise_singleton _ _, ?_⟩
        rintro sibling hsibling last hlast rfl
        rw [List.mem_singleton.1 hlast] at hsibling
        exact hmem hsibling
      · intro entry hentry
        rcases List.mem_append.1 hentry with hold | hlast
        · exact hchildren entry hold
        · rw [List.mem_singleton.1 hlast]
          exact ih distinct_leaf

end Insert

/-! ### The tree of some paths -/

theorem has_foldl_insert_iff (paths : List (List String)) (tree : NameTree) (other : List String) :
    (paths.foldl (fun tree path => tree.insert path) tree).Has other ↔
      tree.Has other ∨ ∃ path ∈ paths, other <+: path := by
  induction paths generalizing tree with
  | nil => simp
  | cons path paths ih =>
    rw [List.foldl_cons, ih, has_insert_iff, or_assoc]
    simp only [List.mem_cons, exists_eq_or_imp]

theorem has_ofPaths_iff {paths : List (List String)} {other : List String} :
    (ofPaths paths).Has other ↔ other = [] ∨ ∃ path ∈ paths, other <+: path := by
  rw [ofPaths, has_foldl_insert_iff, has_leaf_iff]

theorem distinct_ofPaths (paths : List (List String)) : (ofPaths paths).Distinct := by
  have hdistinct : ∀ tree : NameTree, tree.Distinct →
      (paths.foldl (fun tree path => tree.insert path) tree).Distinct := by
    induction paths with
    | nil => exact fun _ htree => htree
    | cons path paths ih => exact fun tree htree => ih _ (htree.insert path)
  exact hdistinct leaf distinct_leaf

end NameTree

end ScriptBridge
