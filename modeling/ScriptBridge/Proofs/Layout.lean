import ScriptBridge.Layout

/-!
# Pieces of code inside blocks

What stands inside nested blocks is read off by their headers. Footers do not matter to it, so that pieces
may be separated from one another without moving anything.
-/

namespace ScriptBridge.Layout

/-- What stands directly inside a block with a header; nothing if the piece is none. -/
def bodyUnder (header : String) : Layout → List Layout
  | .line _ => []
  | .block other body _ => if other = header then body else []

/-- What stands directly inside blocks with some headers, each of them inside the one before. -/
def within : List String → List Layout → List Layout
  | [], pieces => pieces
  | header :: rest, pieces => within rest (pieces.flatMap (bodyUnder header))

/-- The text of a line. -/
def line? : Layout → Option String
  | .line text => some text
  | .block .. => none

/-- The piece with a text right after it. -/
def followedBy (mark : String) : Layout → Layout
  | .line text => .line (text ++ mark)
  | .block header body footer => .block header body (footer ++ mark)

/-- Pieces with a separator after each but the last. -/
def separated (mark : String) : List Layout → List Layout
  | [] => []
  | [last] => [last]
  | piece :: rest => piece.followedBy mark :: separated mark rest

variable {header : String} {headers : List String} {pieces : List Layout}

theorem within_append (headers more : List String) (pieces : List Layout) :
    within (headers ++ more) pieces = within more (within headers pieces) := by
  induction headers generalizing pieces with
  | nil => rfl
  | cons header headers ih => exact ih _

theorem within_nil (headers : List String) : within headers [] = [] := by
  induction headers with
  | nil => rfl
  | cons header headers ih => exact ih

theorem within_flatMap {α : Type} (headers : List String) (items : List α)
    (piecesOf : α → List Layout) :
    within headers (items.flatMap piecesOf) =
      items.flatMap fun item => within headers (piecesOf item) := by
  induction headers generalizing piecesOf with
  | nil => rfl
  | cons header headers ih =>
    rw [within, List.flatMap_assoc, ih]
    rfl

theorem flatMap_bodyUnder_lines {α : Type} (header : String) (items : List α)
    (textOf : α → String) :
    (items.map fun item => line (textOf item)).flatMap (bodyUnder header) = [] := by
  rw [List.flatMap_eq_nil_iff]
  intro piece hpiece
  obtain ⟨item, -, rfl⟩ := List.mem_map.1 hpiece
  rfl

theorem bodyUnder_followedBy (mark : String) (piece : Layout) :
    (piece.followedBy mark).bodyUnder header = piece.bodyUnder header := by
  cases piece <;> rfl

theorem flatMap_bodyUnder_separated (mark : String) (pieces : List Layout) :
    (separated mark pieces).flatMap (bodyUnder header) = pieces.flatMap (bodyUnder header) := by
  induction pieces with
  | nil => rfl
  | cons piece rest ih =>
    cases rest with
    | nil => rfl
    | cons next rest =>
      rw [separated, List.flatMap_cons, List.flatMap_cons, ih, bodyUnder_followedBy]
      exact List.cons_ne_nil next rest

theorem separated_eq_nil_iff {mark : String} : separated mark pieces = [] ↔ pieces = [] := by
  cases pieces with
  | nil => exact iff_of_true rfl rfl
  | cons piece rest => cases rest <;> simp [separated]

section Blocks

variable {α : Type} {items : List α} (headerOf : α → String) (bodyOf : α → List Layout)
  (footerOf : α → String)

theorem flatMap_bodyUnder_of_not_mem (hmem : header ∉ items.map headerOf) :
    (items.map fun item => block (headerOf item) (bodyOf item) (footerOf item)).flatMap
      (bodyUnder header) = [] := by
  rw [List.flatMap_eq_nil_iff]
  intro piece hpiece
  obtain ⟨item, hitem, rfl⟩ := List.mem_map.1 hpiece
  have hne : headerOf item ≠ header := fun heq => hmem (List.mem_map.2 ⟨item, hitem, heq⟩)
  exact if_neg hne

/-- Of blocks with distinct headers, the one with a header gives all there is under it. -/
theorem flatMap_bodyUnder_of_mem (hdistinct : (items.map headerOf).Nodup) {item : α}
    (hitem : item ∈ items) :
    (items.map fun item => block (headerOf item) (bodyOf item) (footerOf item)).flatMap
      (bodyUnder (headerOf item)) = bodyOf item := by
  induction items with
  | nil => cases hitem
  | cons first rest ih =>
    rw [List.map_cons, List.nodup_cons] at hdistinct
    obtain ⟨hfirst, hrest⟩ := hdistinct
    rw [List.map_cons, List.flatMap_cons]
    rcases List.mem_cons.1 hitem with rfl | hmem
    · rw [flatMap_bodyUnder_of_not_mem headerOf bodyOf footerOf hfirst, List.append_nil]
      exact if_pos rfl
    · have hne : headerOf first ≠ headerOf item := by
        intro heq
        exact hfirst (heq ▸ List.mem_map_of_mem hmem)
      rw [ih hrest hmem]
      exact congrArg (· ++ bodyOf item) (if_neg hne)

end Blocks

end ScriptBridge.Layout
