import ScriptBridge.Proofs.Surface.Exploration

/-!
# Where methods and types stand

The namespaces of a surface are distinct, every method and every type stands in one of them, and none is
without segments.
-/

namespace ScriptBridge

namespace Surface

def enumerations (surface : Surface) : List DeclaredType :=
  surface.types.filter (·.kind == .enumeration)

/-- The methods whose namespaces have the segments of a path. -/
def methodsAt (surface : Surface) (path : List String) : List Method :=
  surface.methods.filter fun method => Namespace.segments method.scriptSpace == path

def enumerationsAt (surface : Surface) (path : List String) : List DeclaredType :=
  surface.enumerations.filter fun type => Namespace.segments type.scriptSpace == path

theorem enumerationsAt_eq (surface : Surface) (path : List String) :
    surface.enumerationsAt path =
      (surface.types.filter fun type => Namespace.segments type.scriptSpace == path).filter
        (·.kind == .enumeration) := by
  rw [enumerationsAt, enumerations, List.filter_filter, List.filter_filter]
  exact List.filter_congr fun type _ => Bool.and_comm _ _

/-- A method or an enumeration stands at a path. -/
def Occupied (surface : Surface) (path : List String) : Prop :=
  surface.methodsAt path ≠ [] ∨ surface.enumerationsAt path ≠ []

end Surface

/-- Everything stands in one of the namespaces, which are distinct and have segments. -/
structure Surface.Placed (surface : Surface) : Prop where
  distinct : surface.namespaces.Nodup
  methods : ∀ method ∈ surface.methods, method.scriptSpace ∈ surface.namespaces
  types : ∀ type ∈ surface.types, type.scriptSpace ∈ surface.namespaces
  segments : ∀ scriptSpace ∈ surface.namespaces, Namespace.segments scriptSpace ≠ []

theorem Discovery.namespaces_see (found : Discovery) (scriptSpace : String) :
    (found.see scriptSpace).namespaces =
      if scriptSpace ∈ found.namespaces then found.namespaces
      else found.namespaces ++ [scriptSpace] := by
  unfold see
  by_cases hmem : scriptSpace ∈ found.namespaces
  · rw [if_pos hmem, if_pos (by simpa using hmem)]
  · rw [if_neg hmem, if_neg (by simpa using hmem)]

theorem Discovery.mem_namespaces_see {found : Discovery} {scriptSpace other : String} :
    other ∈ (found.see scriptSpace).namespaces ↔ other = scriptSpace ∨ other ∈ found.namespaces := by
  rw [namespaces_see]
  split
  · rename_i hmem
    refine ⟨.inr, ?_⟩
    rintro (rfl | hother)
    · exact hmem
    · exact hother
  · rw [List.mem_append, List.mem_singleton, or_comm]

theorem Discovery.nodup_namespaces_see {found : Discovery} (hdistinct : found.namespaces.Nodup)
    (scriptSpace : String) : (found.see scriptSpace).namespaces.Nodup := by
  rw [namespaces_see]
  split
  · exact hdistinct
  · rename_i hmem
    rw [List.nodup_append]
    refine ⟨hdistinct, List.pairwise_singleton _ _, ?_⟩
    rintro other hother last hlast rfl
    exact hmem (List.mem_singleton.1 hlast ▸ hother)

theorem Discovery.namespaces_addMethod (found : Discovery) (method : Method) :
    (found.addMethod method).namespaces = (found.see method.scriptSpace).namespaces := by
  rw [addMethod, namespaces_see, namespaces_see]

theorem Discovery.namespaces_addType (found : Discovery) (type : DeclaredType) :
    (found.addType type).namespaces = (found.see type.scriptSpace).namespaces := by
  rw [addType, record, namespaces_see, namespaces_see]

/-- What has been found is placed, and its resolver was made from rules. -/
structure Discovery.Placed (found : Discovery) : Prop where
  reachable : found.resolver.Reachable
  surface : found.surface.Placed

section See

variable {found after : Discovery} {space scriptSpace : String}

/-- A method or a type may be added where its namespace is seen. -/
theorem Discovery.Placed.see (hplaced : found.Placed)
    (hanswer : found.resolver.answer space = .ok scriptSpace)
    (hresolver : after.resolver = found.resolver)
    (hnamespaces : after.namespaces = (found.see scriptSpace).namespaces)
    (hmethods : ∀ method ∈ after.methods,
      method ∈ found.methods ∨ method.scriptSpace = scriptSpace)
    (htypes : ∀ type ∈ after.types, type ∈ found.types ∨ type.scriptSpace = scriptSpace) :
    after.Placed := by
  have hsegments := hplaced.reachable.segments_ne_nil hanswer
  have hmem : ∀ other, other ∈ after.namespaces ↔ other = scriptSpace ∨ other ∈ found.namespaces := by
    intro other
    rw [hnamespaces, mem_namespaces_see]
  refine ⟨hresolver ▸ hplaced.reachable, ?_, ?_, ?_, ?_⟩
  · change after.namespaces.Nodup
    rw [hnamespaces]
    exact nodup_namespaces_see hplaced.surface.distinct scriptSpace
  · intro method hmethod
    refine (hmem _).2 ((hmethods method hmethod).symm.imp id fun hold => ?_)
    exact hplaced.surface.methods method hold
  · intro type htype
    refine (hmem _).2 ((htypes type htype).symm.imp id fun hold => ?_)
    exact hplaced.surface.types type hold
  · intro other hother
    rcases (hmem other).1 hother with rfl | hold
    · exact hsegments
    · exact hplaced.surface.segments other hold

end See

theorem kept_placed : Discovery.Kept Discovery.Placed where
  record _ _ _ hplaced := ⟨hplaced.reachable, hplaced.surface⟩
  warn _ _ hplaced :=
    ⟨hplaced.reachable, hplaced.surface.distinct, hplaced.surface.methods, hplaced.surface.types,
      hplaced.surface.segments⟩
  asked _ space hplaced := ⟨.asked space hplaced.reachable, hplaced.surface⟩
  claim _ _ hplaced := ⟨hplaced.reachable, hplaced.surface⟩
  addMethod found space method hplaced hanswer := by
    refine hplaced.see hanswer (found.resolver_addMethod method) (found.namespaces_addMethod method)
      ?_ ?_
    · intro other hother
      rw [Discovery.methods_addMethod, List.mem_append, List.mem_singleton] at hother
      exact hother.imp_right (congrArg _)
    · intro type htype
      exact .inl (found.types_addMethod method ▸ htype)
  addType found space type hplaced hanswer := by
    refine hplaced.see hanswer (found.resolver_addType type) (found.namespaces_addType type) ?_ ?_
    · intro method hmethod
      exact .inl (found.methods_addType type ▸ hmethod)
    · intro other hother
      rw [Discovery.types_addType, List.mem_append, List.mem_singleton] at hother
      exact hother.imp_right (congrArg _)

theorem placed_of_inspect {inspector : Inspector} {modules : List Descriptor} {surface : Surface}
    (hreachable : inspector.resolver.Reachable)
    (hinspect : (inspector.inspect modules).result = .ok surface) : surface.Placed := by
  obtain ⟨warnings, log, after, htakes, rfl⟩ := takes_of_inspect hinspect
  have hstart : Discovery.Placed { resolver := inspector.resolver, warnings, log } := by
    refine ⟨hreachable, List.nodup_nil, ?_, ?_, ?_⟩ <;> exact fun _ hmem => nomatch hmem
  exact (kept_placed.of_takes htakes hstart).surface

theorem Surface.Placed.exists_space_of_occupied {surface : Surface} (hplaced : surface.Placed)
    {path : List String} (hoccupied : surface.Occupied path) :
    ∃ space ∈ surface.namespaces, Namespace.segments space = path := by
  rcases hoccupied with hmethods | henumerations
  · obtain ⟨method, hmethod⟩ := List.exists_mem_of_ne_nil _ hmethods
    obtain ⟨hmem, hpath⟩ := List.mem_filter.1 hmethod
    exact ⟨_, hplaced.methods method hmem, by simpa using hpath⟩
  · obtain ⟨type, htype⟩ := List.exists_mem_of_ne_nil _ henumerations
    obtain ⟨hmem, hpath⟩ := List.mem_filter.1 htype
    exact ⟨_, hplaced.types type (List.mem_of_mem_filter hmem), by simpa using hpath⟩

/-- Nothing stands outside all namespaces. -/
theorem Surface.Placed.segments_ne_nil {surface : Surface} (hplaced : surface.Placed) :
    (∀ method ∈ surface.methods, Namespace.segments method.scriptSpace ≠ []) ∧
      ∀ type ∈ surface.types, Namespace.segments type.scriptSpace ≠ [] := by
  refine ⟨fun method hmethod => ?_, fun type htype => ?_⟩
  · exact hplaced.segments _ (hplaced.methods method hmethod)
  · exact hplaced.segments _ (hplaced.types type htype)

end ScriptBridge
