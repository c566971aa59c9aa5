import ScriptBridge.Proofs.Artifact.BindingObjects
import ScriptBridge.Proofs.Layout

/-!
# How binding objects are laid out

The entries of an object come first, then the blocks of its inner objects, and a comma stands after each
but the last. The blocks of a path are therefore found by their headers alone.
-/

namespace ScriptBridge

/-- The headers of the blocks that the objects of a path are written in. -/
def objectHeaders : List String → List String
  | [] => []
  | root :: rest => ("export const " ++ root ++ " = \x7b") :: rest.map (· ++ ": \x7b")

theorem objectHeaders_concat {path : List String} (hpath : path ≠ []) (child : String) :
    objectHeaders (path ++ [child]) = objectHeaders path ++ [child ++ ": \x7b"] := by
  obtain ⟨root, rest, rfl⟩ := List.exists_cons_of_ne_nil hpath
  simp [objectHeaders]

namespace BindingObject

/-- The pieces of a binding file with some objects. -/
def pieces (objects : List BindingObject) : List Layout :=
  fileHeader.map .line ++ objects.map fun object =>
    .block ("export const " ++ object.name ++ " = \x7b") object.body "\x7d;"

theorem blocks_eq (inner : List BindingObject) :
    blocks inner = Layout.separated "," (inner.map fun object =>
      .block (object.name ++ ": \x7b") object.body "\x7d") := by
  induction inner with
  | nil => rw [blocks]; rfl
  | cons object rest ih =>
    rw [blocks, ih]
    cases rest with
    | nil => rfl
    | cons next rest => rfl

theorem entryLines_append_blocks (entries : List BindingEntry) (inner : List BindingObject) :
    entryLines entries (!inner.isEmpty) ++ blocks inner =
      Layout.separated "," (entries.map (fun entry => .line entry.text) ++ inner.map fun object =>
        .block (object.name ++ ": \x7b") object.body "\x7d") := by
  rw [blocks_eq]
  induction entries with
  | nil => rfl
  | cons entry rest ih =>
    cases rest with
    | cons next rest =>
      rw [entryLines, List.cons_append, ih]
      · rfl
      · exact List.cons_ne_nil next rest
    | nil =>
      cases inner with
      | nil => simp [entryLines, Layout.separated]
      | cons object rest => rfl

theorem body_eq (object : BindingObject) :
    object.body =
      Layout.separated "," (object.entries.map (fun entry => .line entry.text) ++
        object.inner.map fun inner => .block (inner.name ++ ": \x7b") inner.body "\x7d") := by
  obtain ⟨name, entries, inner⟩ := object
  rw [body]
  exact entryLines_append_blocks entries inner

theorem body_eq_nil_iff {object : BindingObject} : object.body = [] ↔ object.isEmpty = true := by
  rw [body_eq, Layout.separated_eq_nil_iff]
  obtain ⟨name, entries, inner⟩ := object
  simp [isEmpty, BindingObject.entries, BindingObject.inner]

section Within

variable {surface : Surface} {path : List String} {object : BindingObject}
  {objects : List BindingObject}

theorem objectHeader_injective (name other : String) (heq : name ++ ": \x7b" = other ++ ": \x7b") :
    name = other := by
  simpa [String.ext_iff] using heq

theorem rootHeader_injective (name other : String)
    (heq : "export const " ++ name ++ " = \x7b" = "export const " ++ other ++ " = \x7b") :
    name = other := by
  simpa [String.ext_iff] using heq

theorem nodup_headers {headerOf : String → String}
    (hinjective : ∀ name other, headerOf name = headerOf other → name = other)
    (hascending : Text.Ascending (objects.map (·.name))) :
    (objects.map fun object => headerOf object.name).Nodup := by
  have hdistinct := hascending.nodup.map fun _ _ heq => hinjective _ _ heq
  rwa [List.map_map] at hdistinct

/-- Of the blocks of objects with ascending names, the one with a header is that of its name. -/
theorem flatMap_bodyUnder_objects {headerOf : String → String}
    (hinjective : ∀ name other, headerOf name = headerOf other → name = other)
    (hascending : Text.Ascending (objects.map (·.name))) (child footer : String) :
    (∃ object ∈ objects, object.name = child ∧
        (objects.map fun object => Layout.block (headerOf object.name) object.body footer).flatMap
          (Layout.bodyUnder (headerOf child)) = object.body) ∨
      ((∀ object ∈ objects, object.name ≠ child) ∧
        (objects.map fun object => Layout.block (headerOf object.name) object.body footer).flatMap
          (Layout.bodyUnder (headerOf child)) = []) := by
  by_cases hmem : ∃ object ∈ objects, object.name = child
  · obtain ⟨object, hobject, rfl⟩ := hmem
    have hdistinct := nodup_headers hinjective hascending
    refine .inl ⟨object, hobject, rfl, ?_⟩
    exact Layout.flatMap_bodyUnder_of_mem _ body (fun _ => footer) hdistinct hobject
  · have hother : ∀ object ∈ objects, object.name ≠ child := fun object hobject hname =>
      hmem ⟨object, hobject, hname⟩
    refine .inr ⟨hother, Layout.flatMap_bodyUnder_of_not_mem _ body (fun _ => footer) ?_⟩
    intro hheader
    obtain ⟨object, hobject, heq⟩ := List.mem_map.1 hheader
    exact hother object hobject (hinjective _ _ heq)

/-- Only the inner objects count for what is inside the blocks of an object. -/
theorem flatMap_bodyUnder_body (object : BindingObject) (header : String) :
    object.body.flatMap (Layout.bodyUnder header) =
      (object.inner.map fun inner =>
        Layout.block (inner.name ++ ": \x7b") inner.body "\x7d").flatMap
          (Layout.bodyUnder header) := by
  rw [body_eq, Layout.flatMap_bodyUnder_separated, List.flatMap_append,
    Layout.flatMap_bodyUnder_lines, List.nil_append]

/-- The block of a path inside an object is that of the object there; there is none if nothing stands at
or below the path. -/
theorem within_body (hmirrors : Mirrors surface path object) (hfull : object.isEmpty = false)
    (rest : List String) :
    (∃ inner, Mirrors surface (path ++ rest) inner ∧ inner.isEmpty = false ∧
        Layout.within (rest.map (· ++ ": \x7b")) object.body = inner.body) ∨
      ((∀ occupied, surface.Occupied occupied → ¬ path ++ rest <+: occupied) ∧
        Layout.within (rest.map (· ++ ": \x7b")) object.body = []) := by
  induction rest generalizing path object with
  | nil =>
    refine .inl ⟨object, ?_, hfull, rfl⟩
    rwa [List.append_nil]
  | cons child rest ih =>
    obtain @⟨_, name, entries, inner, -, hascending, hinnerFull, hcomplete, hinner⟩ := hmirrors
    have hpath : path ++ child :: rest = path ++ [child] ++ rest := by simp
    rw [List.map_cons, Layout.within, flatMap_bodyUnder_body, BindingObject.inner, hpath]
    rcases flatMap_bodyUnder_objects objectHeader_injective hascending child "\x7d" with
      ⟨next, hnext, rfl, hunder⟩ | ⟨hother, hunder⟩
    · rw [hunder]
      exact ih (hinner next hnext) (hinnerFull next hnext)
    · rw [hunder, Layout.within_nil]
      refine .inr ⟨fun occupied hoccupied hbelow => ?_, rfl⟩
      have hchild := (List.prefix_append (path ++ [child]) rest).trans hbelow
      obtain ⟨next, hnext, hname⟩ := hcomplete child occupied hoccupied hchild
      exact hother next hnext hname

/-- The block of a path in a binding file, likewise. -/
theorem within_pieces (hmirrors : Mirrors surface [] (.node "" [] objects)) (hpath : path ≠ []) :
    (∃ object, Mirrors surface path object ∧ object.isEmpty = false ∧
        Layout.within (objectHeaders path) (pieces objects) = object.body) ∨
      ((∀ occupied, surface.Occupied occupied → ¬ path <+: occupied) ∧
        Layout.within (objectHeaders path) (pieces objects) = []) := by
  obtain ⟨root, rest, rfl⟩ := List.exists_cons_of_ne_nil hpath
  obtain @⟨_, _, _, _, -, hascending, hfull, hcomplete, hobjects⟩ := hmirrors
  rw [objectHeaders, Layout.within, pieces, List.flatMap_append, Layout.flatMap_bodyUnder_lines,
    List.nil_append]
  rcases flatMap_bodyUnder_objects rootHeader_injective hascending root "\x7d;" with
    ⟨object, hobject, rfl, hunder⟩ | ⟨hother, hunder⟩
  · rw [hunder]
    exact within_body (hobjects object hobject) (hfull object hobject) rest
  · rw [hunder, Layout.within_nil]
    refine .inr ⟨fun occupied hoccupied hbelow => ?_, rfl⟩
    have hroot : [] ++ [root] <+: occupied := (List.prefix_append [root] rest).trans hbelow
    obtain ⟨object, hobject, hname⟩ := hcomplete root occupied hoccupied hroot
    exact hother object hobject hname

end Within

end BindingObject

/-! ### What is bound at a path -/

/-- The block of a path holds the entries that stand there and the blocks of the paths right inside at or
below which something stands, in ascending order. Each of them but the last is followed by a comma, and
no block is empty. -/
def Surface.BoundAt (surface : Surface) (bound : List Layout) (path : List String) : Prop :=
  ∃ (entries : List BindingEntry) (children : List String),
    surface.entriesAt path = .ok entries ∧ Text.Ascending children ∧
    (∀ child, child ∈ children ↔
      ∃ occupied, surface.Occupied occupied ∧ path ++ [child] <+: occupied) ∧
    (∀ child ∈ children, Layout.within (objectHeaders (path ++ [child])) bound ≠ []) ∧
    Layout.within (objectHeaders path) bound =
      Layout.separated "," (entries.map (fun entry => .line entry.text) ++
        children.map fun child => .block (child ++ ": \x7b")
          (Layout.within (objectHeaders (path ++ [child])) bound) "\x7d")

/-- After its header a binding file holds the blocks of the outermost names at or below which something
stands, in ascending order, and none of them is empty. -/
def Surface.BoundOutermost (surface : Surface) (bound : List Layout) : Prop :=
  ∃ roots : List String, Text.Ascending roots ∧
    (∀ root, root ∈ roots ↔ ∃ occupied, surface.Occupied occupied ∧ [root] <+: occupied) ∧
    (∀ root ∈ roots, Layout.within (objectHeaders [root]) bound ≠ []) ∧
    bound = BindingObject.fileHeader.map .line ++ roots.map fun root =>
      .block ("export const " ++ root ++ " = \x7b") (Layout.within (objectHeaders [root]) bound)
        "\x7d;"

namespace BindingObject

section Bound

variable {surface : Surface} {path : List String} {objects : List BindingObject}

theorem entriesAt_of_vacant (hvacant : ¬ surface.Occupied path) : surface.entriesAt path = .ok [] := by
  obtain ⟨hmethods, henumerations⟩ :
      surface.methodsAt path = [] ∧ surface.enumerationsAt path = [] := by
    simpa [Surface.Occupied, not_or] using hvacant
  refine entriesAt_eq_ok_iff.2 ⟨[], [], ?_, ?_, rfl⟩
  · rw [hmethods, List.mapM_nil]
    rfl
  · rw [henumerations, List.mapM_nil]
    rfl

theorem within_ne_nil_of_occupied (hmirrors : Mirrors surface [] (.node "" [] objects))
    (hpath : path ≠ []) {occupied : List String} (hoccupied : surface.Occupied occupied)
    (hbelow : path <+: occupied) : Layout.within (objectHeaders path) (pieces objects) ≠ [] := by
  rcases within_pieces hmirrors hpath with ⟨object, -, hfull, hwithin⟩ | ⟨hvacant, -⟩
  · rw [hwithin]
    intro hnil
    rw [body_eq_nil_iff.1 hnil] at hfull
    cases hfull
  · exact absurd hbelow (hvacant occupied hoccupied)

theorem within_ne_nil_of_mem_names {name : String} {entries : List BindingEntry}
    {inner : List BindingObject} (hmirrors : Mirrors surface [] (.node "" [] objects))
    (hobject : Mirrors surface path (.node name entries inner)) :
    ∀ child ∈ inner.map (·.name),
      Layout.within (objectHeaders (path ++ [child])) (pieces objects) ≠ [] := by
  intro child hchild
  obtain ⟨occupied, hoccupied, hbelow⟩ := hobject.mem_names_iff.1 hchild
  exact within_ne_nil_of_occupied hmirrors (by simp) hoccupied hbelow

/-- The block of an inner object holds its body. -/
theorem within_inner {inner : List BindingObject} {entries : List BindingEntry} {name : String}
    (hpath : path ≠ []) (hascending : Text.Ascending (inner.map (·.name)))
    (hwithin : Layout.within (objectHeaders path) (pieces objects) = (node name entries inner).body)
    {object : BindingObject} (hobject : object ∈ inner) :
    Layout.within (objectHeaders (path ++ [object.name])) (pieces objects) = object.body := by
  have hdistinct := nodup_headers objectHeader_injective hascending
  rw [objectHeaders_concat hpath, Layout.within_append, hwithin, Layout.within, Layout.within,
    flatMap_bodyUnder_body]
  exact Layout.flatMap_bodyUnder_of_mem _ body (fun _ => "\x7d") hdistinct hobject

/-- The block of an outermost object holds its body. -/
theorem within_outermost (hascending : Text.Ascending (objects.map (·.name)))
    {object : BindingObject} (hobject : object ∈ objects) :
    Layout.within (objectHeaders [object.name]) (pieces objects) = object.body := by
  have hdistinct := nodup_headers rootHeader_injective hascending
  rw [objectHeaders, Layout.within, List.map_nil, Layout.within, pieces, List.flatMap_append,
    Layout.flatMap_bodyUnder_lines, List.nil_append]
  exact Layout.flatMap_bodyUnder_of_mem _ body (fun _ => "\x7d;") hdistinct hobject

theorem boundAt_pieces (hmirrors : Mirrors surface [] (.node "" [] objects)) (hpath : path ≠ []) :
    surface.BoundAt (pieces objects) path := by
  rcases within_pieces hmirrors hpath with ⟨object, hobject, hfull, hwithin⟩ | ⟨hvacant, hwithin⟩
  · have hhere := hobject
    obtain @⟨_, name, entries, inner, hentries, hascending, -, -, -⟩ := hobject
    refine ⟨entries, inner.map (·.name), hentries, hascending, fun _ => hhere.mem_names_iff,
      within_ne_nil_of_mem_names hmirrors hhere, ?_⟩
    rw [hwithin, body_eq, List.map_map]
    refine congrArg _ (congrArg _ (List.map_congr_left fun object hobject => ?_))
    rw [Function.comp_apply, within_inner hpath hascending hwithin hobject]
  · have hnone : ∀ child, ¬ ∃ occupied, surface.Occupied occupied ∧ path ++ [child] <+: occupied := by
      rintro child ⟨occupied, hoccupied, hbelow⟩
      exact hvacant occupied hoccupied ((List.prefix_append _ _).trans hbelow)
    refine ⟨[], [], entriesAt_of_vacant fun hoccupied => ?_, .nil, ?_, ?_, hwithin⟩
    · exact hvacant path hoccupied List.prefix_rfl
    · exact fun child => iff_of_false List.not_mem_nil (hnone child)
    · exact fun child hchild => absurd hchild List.not_mem_nil

theorem boundOutermost_pieces (hmirrors : Mirrors surface [] (.node "" [] objects)) :
    surface.BoundOutermost (pieces objects) := by
  have hroot := hmirrors
  obtain @⟨_, _, _, _, -, hascending, -, -, -⟩ := hmirrors
  refine ⟨objects.map (·.name), hascending, fun _ => hroot.mem_names_iff,
    within_ne_nil_of_mem_names hroot hroot, ?_⟩
  rw [List.map_map]
  refine congrArg _ (List.map_congr_left fun object hobject => ?_)
  rw [Function.comp_apply, within_outermost hascending hobject]

end Bound

end BindingObject

end ScriptBridge
