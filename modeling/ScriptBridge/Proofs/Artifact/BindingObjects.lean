import Mathlib.Data.List.Nodup
import ScriptBridge.Artifact.Bindings
import ScriptBridge.Proofs.Outcome
import ScriptBridge.Proofs.Surface.Insertion
import ScriptBridge.Proofs.Text.Unpaired

/-!
# What binding objects hold

The object of a path holds the entries of the methods and the enumerations that stand there, and the
objects of just those paths inside it at or below which something stands.
-/

namespace ScriptBridge

/-- How many entries a method has. -/
def MethodKind.entryCount : MethodKind → Nat
  | .invokable => 1
  | .function => 3
  | .event => 2

/-- The entries at a path: those of the methods, then those of the enumerations. -/
def Surface.entriesAt (surface : Surface) (path : List String) :
    Except EmitFault (List BindingEntry) := do
  let methodEntries ← (surface.methodsAt path).mapM (·.bindingEntries)
  let lookups ← (surface.enumerationsAt path).mapM (·.bindingEntries)
  return methodEntries.flatten ++ lookups.flatten

/-- An object holds what stands at and below a path. The names of its inner objects ascend, none of them
is empty, and none is missing. -/
inductive BindingObject.Mirrors (surface : Surface) : List String → BindingObject → Prop
  | node {path : List String} {name : String} {entries : List BindingEntry}
      {inner : List BindingObject} :
    surface.entriesAt path = .ok entries →
    Text.Ascending (inner.map (·.name)) →
    (∀ object ∈ inner, object.isEmpty = false) →
    (∀ child occupied, surface.Occupied occupied → path ++ [child] <+: occupied →
      ∃ object ∈ inner, object.name = child) →
    (∀ object ∈ inner, Mirrors surface (path ++ [object.name]) object) →
    Mirrors surface path (.node name entries inner)

/-! ### Entries -/

section Entries

variable {surface : Surface} {path : List String} {entries : List BindingEntry}

theorem length_bindingEntries {method : Method} (hmade : method.bindingEntries = .ok entries) :
    entries.length = method.kind.entryCount := by
  obtain ⟨-, -, hentries⟩ := Outcome.bind_eq_ok_iff.1 hmade
  cases hentries
  cases method.kind <;> rfl

theorem exists_lookup_of_bindingEntries {type : DeclaredType} (hkind : type.kind = .enumeration)
    (hmade : type.bindingEntries = .ok entries) :
    ∃ pairs, entries = [.lookup type.identity.name.display pairs] := by
  unfold DeclaredType.bindingEntries at hmade
  unfold DeclaredType.kind at hkind
  split at hmade
  · obtain ⟨pairs, -, hentries⟩ := Outcome.bind_eq_ok_iff.1 hmade
    cases hentries
    exact ⟨pairs, rfl⟩
  · rename_i hshape
    rw [hshape] at hkind
    cases hkind

theorem kind_of_mem_enumerationsAt {type : DeclaredType} (htype : type ∈ surface.enumerationsAt path) :
    type.kind = .enumeration := by
  have hmem := List.mem_of_mem_filter htype
  simpa using (List.mem_filter.1 hmem).2

theorem bindingEntries_of_object {type : DeclaredType} (hkind : type.kind ≠ .enumeration) :
    type.bindingEntries = .ok [] := by
  unfold DeclaredType.bindingEntries
  unfold DeclaredType.kind at hkind
  split
  · rename_i hshape
    rw [hshape] at hkind
    exact absurd rfl hkind
  · rfl

theorem entriesAt_eq_ok_iff :
    surface.entriesAt path = .ok entries ↔
      ∃ methodEntries lookups, (surface.methodsAt path).mapM (·.bindingEntries) = .ok methodEntries ∧
        (surface.enumerationsAt path).mapM (·.bindingEntries) = .ok lookups ∧
        entries = methodEntries.flatten ++ lookups.flatten := by
  unfold Surface.entriesAt
  constructor
  · intro hmade
    obtain ⟨methodEntries, hmethods, hrest⟩ := Outcome.bind_eq_ok_iff.1 hmade
    obtain ⟨lookups, hlookups, hentries⟩ := Outcome.bind_eq_ok_iff.1 hrest
    exact ⟨methodEntries, lookups, hmethods, hlookups, (Except.ok.inj hentries).symm⟩
  · rintro ⟨methodEntries, lookups, hmethods, hlookups, rfl⟩
    rw [hmethods, Outcome.bind_eq_ok_iff]
    exact ⟨methodEntries, rfl, by rw [hlookups]; rfl⟩

/-- Every method and every enumeration has entries. -/
theorem entriesAt_eq_nil_iff (hmade : surface.entriesAt path = .ok entries) :
    entries = [] ↔ ¬ surface.Occupied path := by
  obtain ⟨methodEntries, lookups, hmethods, hlookups, rfl⟩ := entriesAt_eq_ok_iff.1 hmade
  have hmethodEntries : methodEntries.flatten = [] ↔ surface.methodsAt path = [] := by
    refine Outcome.flatten_eq_nil_iff_of_mapM hmethods fun method _ entries hentries => ?_
    have hlength := length_bindingEntries hentries
    rintro rfl
    cases hkind : method.kind <;> rw [hkind] at hlength <;> cases hlength
  have hlookupEntries : lookups.flatten = [] ↔ surface.enumerationsAt path = [] := by
    refine Outcome.flatten_eq_nil_iff_of_mapM hlookups fun type htype entries hentries => ?_
    obtain ⟨pairs, rfl⟩ := exists_lookup_of_bindingEntries
      (kind_of_mem_enumerationsAt htype) hentries
    exact List.cons_ne_nil _ _
  rw [List.append_eq_nil_iff, hmethodEntries, hlookupEntries, Surface.Occupied]
  simp [not_or]

end Entries

/-! ### Objects in order -/

namespace BindingObject

variable {made : List (String × Except EmitFault BindingObject)} {objects : List BindingObject}

/-- Whether one of two made objects may stand before the other. -/
def mayPrecede (a b : String × Except EmitFault BindingObject) : Bool :=
  !decide (Text.codePoints b.1 < Text.codePoints a.1)

theorem mayPrecede_iff {a b : String × Except EmitFault BindingObject} :
    mayPrecede a b = true ↔ Text.codePoints a.1 ≤ Text.codePoints b.1 := by
  rw [mayPrecede, Bool.not_eq_true', decide_eq_false_iff_not, not_lt]

theorem ascending_mergeSort (hdistinct : (made.map (·.1)).Nodup) :
    Text.Ascending ((made.mergeSort mayPrecede).map (·.1)) := by
  have hsorted : (made.mergeSort mayPrecede).Pairwise fun a b => mayPrecede a b = true := by
    refine List.pairwise_mergeSort ?_ ?_ made
    · intro a b c hab hbc
      rw [mayPrecede_iff] at hab hbc ⊢
      exact hab.trans hbc
    · intro a b
      rw [Bool.or_eq_true, mayPrecede_iff, mayPrecede_iff]
      exact le_total _ _
  have hnodup : ((made.mergeSort mayPrecede).map (·.1)).Nodup :=
    ((List.mergeSort_perm made mayPrecede).map (·.1)).nodup_iff.2 hdistinct
  refine List.pairwise_map.2 ((hsorted.and (List.pairwise_map.1 hnodup)).imp fun hpair => ?_)
  exact lt_of_le_of_ne (mayPrecede_iff.1 hpair.1) fun heq => hpair.2 (Text.codePoints_injective heq)

/-- The objects that are made of distinct names come out ascending, without the empty ones. -/
theorem arranged_eq_ok (harranged : arranged made = .ok objects)
    (hdistinct : (made.map (·.1)).Nodup)
    (hnamed : ∀ entry ∈ made, ∀ object, entry.2 = .ok object → object.name = entry.1) :
    Text.Ascending (objects.map (·.name)) ∧
      (∀ object ∈ objects, object.isEmpty = false ∧ (object.name, .ok object) ∈ made) ∧
      ∀ entry ∈ made, ∃ object, entry.2 = .ok object ∧ (object.isEmpty = false → object ∈ objects) := by
  obtain ⟨sorted, hsorted, hfilter⟩ := Outcome.bind_eq_ok_iff.1 harranged
  cases hfilter
  change (made.mergeSort mayPrecede).mapM (·.2) = .ok sorted at hsorted
  have hmem : ∀ entry, entry ∈ made.mergeSort mayPrecede ↔ entry ∈ made :=
    fun entry => (List.mergeSort_perm made mayPrecede).mem_iff
  have hnames : (made.mergeSort mayPrecede).map (·.1) = sorted.map (·.name) := by
    refine Outcome.map_eq_map_of_mapM hsorted fun entry hentry object hobject => ?_
    exact (hnamed entry ((hmem entry).1 hentry) object hobject).symm
  refine ⟨?_, ?_, ?_⟩
  · have hascending := ascending_mergeSort hdistinct
    rw [hnames] at hascending
    exact hascending.sublist (List.filter_sublist.map _)
  · intro object hobject
    obtain ⟨hobject, hkept⟩ := List.mem_filter.1 hobject
    obtain ⟨⟨name, result⟩, hentry, rfl⟩ := Outcome.exists_of_mem_results hsorted hobject
    have hentry := (hmem _).1 hentry
    rw [hnamed _ hentry object rfl]
    exact ⟨by simpa using hkept, hentry⟩
  · intro entry hentry
    obtain ⟨object, hobject, hmade⟩ := Outcome.exists_result_of_mem hsorted ((hmem entry).2 hentry)
    exact ⟨object, hmade, fun hempty => List.mem_filter.2 ⟨hobject, by simp [hempty]⟩⟩

/-! ### Objects of a tree -/

section Tree

variable {surface : Surface} {path : List String} {name : String} {object : BindingObject}

theorem ofNodes_eq_map (nodes : List NamespaceNode) :
    ofNodes nodes = nodes.map fun node => (node.name, ofNode node) := by
  induction nodes with
  | nil => rfl
  | cons node nodes ih => rw [ofNodes, ih, List.map_cons]

/-- What becomes of the objects inside the one of a path. -/
def madeIn (surface : Surface) (path : List String) (children : List (String × NameTree)) :
    List (String × Except EmitFault BindingObject) :=
  children.map fun (name, tree) => (name, ofNode (surface.nodeAt name (path ++ [name]) tree))

theorem ofNodes_children_nodeAt (name : String) {children : List (String × NameTree)} :
    ofNodes (surface.nodeAt name path (.node children)).children = madeIn surface path children := by
  rw [Surface.nodeAt_node, NamespaceNode.children, ofNodes_eq_map, List.map_map]
  refine List.map_congr_left fun entry _ => ?_
  rw [Function.comp_apply, Surface.name_nodeAt]

theorem ofNode_eq_ok {children : List (String × NameTree)}
    (hmade : ofNode (surface.nodeAt name path (.node children)) = .ok object) :
    ∃ entries inner, object = .node name entries inner ∧ surface.entriesAt path = .ok entries ∧
      arranged (madeIn surface path children) = .ok inner := by
  rw [← ofNodes_children_nodeAt name]
  rw [Surface.nodeAt, ofNode] at hmade
  obtain ⟨methodEntries, hmethods, hmade⟩ := Outcome.bind_eq_ok_iff.1 hmade
  obtain ⟨typeEntries, htypes, hmade⟩ := Outcome.bind_eq_ok_iff.1 hmade
  obtain ⟨inner, hinner, hmade⟩ := Outcome.bind_eq_ok_iff.1 hmade
  cases hmade
  have hdropped : ∀ type : DeclaredType, (type.kind == .enumeration) = false →
      type.bindingEntries = .ok [] := by
    intro type hkind
    exact bindingEntries_of_object (by simpa using hkind)
  obtain ⟨lookups, hlookups, hflatten⟩ := Outcome.exists_mapM_filter htypes hdropped
  refine ⟨_, inner, rfl, entriesAt_eq_ok_iff.2 ⟨methodEntries, lookups, hmethods, ?_, ?_⟩, hinner⟩
  · rwa [Surface.enumerationsAt_eq]
  · rw [hflatten]

/-- An object at or above something that stands in the surface is not empty. -/
theorem Mirrors.isEmpty_of_occupied (hmirrors : Mirrors surface path object)
    {occupied : List String} (hoccupied : surface.Occupied occupied) (hbelow : path <+: occupied) :
    object.isEmpty = false := by
  obtain @⟨_, name, entries, inner, hentries, -, -, hcomplete, -⟩ := hmirrors
  obtain ⟨rest, rfl⟩ := hbelow
  rw [isEmpty, Bool.and_eq_false_iff, List.isEmpty_eq_false_iff, List.isEmpty_eq_false_iff]
  cases rest with
  | nil =>
    refine .inl fun hnil => (entriesAt_eq_nil_iff hentries).1 hnil ?_
    simpa using hoccupied
  | cons child rest =>
    obtain ⟨object, hobject, -⟩ := hcomplete child _ hoccupied ⟨rest, by simp⟩
    exact .inr (List.ne_nil_of_mem hobject)

/-- Something stands at or below an object that is not empty. -/
theorem Mirrors.exists_occupied (hmirrors : Mirrors surface path object)
    (hfull : object.isEmpty = false) : ∃ occupied, surface.Occupied occupied ∧ path <+: occupied := by
  induction hmirrors with
  | @node path name entries inner hentries _ hinner _ _ ih =>
    rw [isEmpty, Bool.and_eq_false_iff, List.isEmpty_eq_false_iff,
      List.isEmpty_eq_false_iff] at hfull
    rcases hfull with hhere | hbelow
    · have hoccupied : surface.Occupied path := by
        by_contra hvacant
        exact hhere ((entriesAt_eq_nil_iff hentries).2 hvacant)
      exact ⟨path, hoccupied, List.prefix_rfl⟩
    · obtain ⟨object, hobject⟩ := List.exists_mem_of_ne_nil _ hbelow
      obtain ⟨occupied, hoccupied, hprefix⟩ := ih object hobject (hinner object hobject)
      exact ⟨occupied, hoccupied, (List.prefix_append _ _).trans hprefix⟩

/-- The inner objects have the names at or below which something stands. -/
theorem Mirrors.mem_names_iff {name : String} {entries : List BindingEntry}
    {inner : List BindingObject} (hmirrors : Mirrors surface path (.node name entries inner))
    {child : String} :
    child ∈ inner.map (·.name) ↔
      ∃ occupied, surface.Occupied occupied ∧ path ++ [child] <+: occupied := by
  cases hmirrors with
  | node _ _ hfull hcomplete hinner =>
    constructor
    · intro hmem
      obtain ⟨object, hobject, rfl⟩ := List.mem_map.1 hmem
      exact (hinner object hobject).exists_occupied (hfull object hobject)
    · rintro ⟨occupied, hoccupied, hbelow⟩
      obtain ⟨object, hobject, rfl⟩ := hcomplete child occupied hoccupied hbelow
      exact List.mem_map_of_mem hobject

/-- The object of a tree that has every path where something stands mirrors the surface. -/
theorem mirrors_of_ofNode {tree : NameTree} (hdistinct : tree.Distinct)
    (hcover : ∀ rest, surface.Occupied (path ++ rest) → tree.Has rest)
    (hmade : ofNode (surface.nodeAt name path tree) = .ok object) :
    object.name = name ∧ Mirrors surface path object := by
  induction tree generalizing name path object with
  | node children ih =>
    obtain ⟨entries, inner, rfl, hentries, hinner⟩ := ofNode_eq_ok hmade
    refine ⟨rfl, ?_⟩
    cases hdistinct with
    | node hnames hchildren =>
    have hchild : ∀ entry ∈ children, ∀ object,
        ofNode (surface.nodeAt entry.1 (path ++ [entry.1]) entry.2) = .ok object →
          object.name = entry.1 ∧ Mirrors surface (path ++ [entry.1]) object := by
      intro entry hentry object hobject
      refine ih entry hentry (hchildren entry hentry) (fun rest hoccupied => ?_) hobject
      rw [List.append_assoc] at hoccupied
      obtain ⟨tree, htree, hhas⟩ := NameTree.has_node_cons_iff.1 (hcover _ hoccupied)
      have hsame := List.inj_on_of_nodup_map hnames htree hentry rfl
      exact hsame ▸ hhas
    have hkeys : (madeIn surface path children).map (·.1) = children.map (·.1) := by
      rw [madeIn, List.map_map]
      rfl
    obtain ⟨hascending, hobjects, hall⟩ := arranged_eq_ok hinner (hkeys ▸ hnames) (by
      rintro _ hmade object hobject
      obtain ⟨entry, hentry, rfl⟩ := List.mem_map.1 hmade
      exact (hchild entry hentry object hobject).1)
    refine .node hentries hascending (fun object hobject => (hobjects object hobject).1) ?_ ?_
    · intro child occupied hoccupied hbelow
      obtain ⟨rest, rfl⟩ := hbelow
      have hhas := hcover (child :: rest) (by simpa using hoccupied)
      obtain ⟨tree, htree, -⟩ := NameTree.has_node_cons_iff.1 hhas
      obtain ⟨object, hobject, hkept⟩ := hall _ (List.mem_map_of_mem htree)
      obtain ⟨hname, hmirrors⟩ := hchild _ htree object hobject
      exact ⟨object, hkept (hmirrors.isEmpty_of_occupied hoccupied ⟨rest, rfl⟩), hname⟩
    · intro object hobject
      obtain ⟨entry, hentry, hmade⟩ := List.mem_map.1 (hobjects object hobject).2
      obtain ⟨hname, hobject⟩ := Prod.mk.inj hmade
      exact hname ▸ (hchild entry hentry object hobject).2

/-- The outermost objects are those inside an object that stands for no namespace. -/
theorem mirrors_of_ofSurface {objects : List BindingObject} (hplaced : surface.Placed)
    (hmethods : surface.methods ≠ []) (hmade : ofSurface surface = .ok objects) :
    Mirrors surface [] (.node "" [] objects) := by
  have hnoMethods : surface.methodsAt [] = [] := by
    refine List.filter_eq_nil_iff.2 fun method hmethod => ?_
    simpa using hplaced.segments_ne_nil.1 method hmethod
  have hnoTypes : surface.typesAt [] = [] := by
    refine List.filter_eq_nil_iff.2 fun type htype => ?_
    simpa using hplaced.segments_ne_nil.2 type htype
  rw [ofSurface, if_neg (by simpa using hmethods), hplaced.tree?_eq.2] at hmade
  have hroot : ofNode (surface.nodeAt "" [] surface.names) = .ok (.node "" [] objects) := by
    cases hnames : surface.names with
    | node children =>
      rw [hnames, Surface.nodeAt] at hmade
      rw [Surface.nodeAt, ofNode, hnoMethods, hnoTypes, List.mapM_nil, List.mapM_nil]
      refine Outcome.bind_eq_ok_iff.2 ⟨[], rfl, Outcome.bind_eq_ok_iff.2 ⟨[], rfl, ?_⟩⟩
      exact Outcome.bind_eq_ok_iff.2 ⟨objects, hmade, rfl⟩
  refine (mirrors_of_ofNode surface.distinct_names (fun path hoccupied => ?_) hroot).2
  obtain ⟨space, hspace, hsegments⟩ := hplaced.exists_space_of_occupied hoccupied
  rw [List.nil_append] at hsegments
  exact hsegments ▸ Surface.has_names hspace

end Tree

end BindingObject

end ScriptBridge
