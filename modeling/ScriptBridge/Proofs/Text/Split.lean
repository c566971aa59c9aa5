import Mathlib.Data.List.DropRight
import ScriptBridge.Text.Split

/-!
# Parts of a text

A text is cut as its list of characters is.
-/

namespace ScriptBridge.Text

variable {mark : Char} {text part : String}

theorem splitAtChar_eq_splitOn (mark : Char) (text : List Char) :
    splitAtChar mark text = text.splitOn mark := by
  induction text with
  | nil => rw [splitAtChar, List.splitOn_nil]
  | cons c rest ih =>
    rw [splitAtChar, List.splitOn_cons_eq_if_modifyHead, ← ih]
    by_cases hmark : (c == mark) = true
    · rw [if_pos hmark, if_pos hmark]
    · rw [if_neg hmark, if_neg hmark]
      cases hsplit : splitAtChar mark rest with
      | nil => exact absurd hsplit (splitAtChar_ne_nil mark rest)
      | cons first others => rfl

theorem not_mem_of_mem_splitAtChar {text part : List Char} (hpart : part ∈ splitAtChar mark text) :
    mark ∉ part := by
  induction text generalizing part with
  | nil =>
    rw [splitAtChar, List.mem_singleton] at hpart
    rw [hpart]
    exact List.not_mem_nil
  | cons c rest ih =>
    rw [splitAtChar] at hpart
    by_cases hmark : (c == mark) = true
    · rw [if_pos hmark, List.mem_cons] at hpart
      rcases hpart with rfl | hpart
      · exact List.not_mem_nil
      · exact ih hpart
    · rw [if_neg hmark] at hpart
      have hne : mark ≠ c := fun heq => hmark (by simp [heq])
      cases hsplit : splitAtChar mark rest with
      | nil => exact absurd hsplit (splitAtChar_ne_nil mark rest)
      | cons first others =>
        rw [hsplit] at hpart ih
        rcases List.mem_cons.1 hpart with rfl | hothers
        · rw [List.mem_cons, not_or]
          exact ⟨hne, ih List.mem_cons_self⟩
        · exact ih (List.mem_cons_of_mem _ hothers)

/-- Between marks there is nothing. -/
theorem eq_nil_of_mem_splitAtChar {text : List Char} (hmarks : ∀ c ∈ text, c = mark) :
    ∀ part ∈ splitAtChar mark text, part = [] := by
  induction text with
  | nil => simp [splitAtChar]
  | cons c rest ih =>
    obtain ⟨rfl, hrest⟩ := List.forall_mem_cons.1 hmarks
    simpa [splitAtChar] using ih hrest

theorem dottedParts_ne_nil (text : String) : dottedParts text ≠ [] := by
  simp [dottedParts, splitAtChar_ne_nil]

theorem dottedParts_append (a b : String) :
    dottedParts (a ++ "." ++ b) = dottedParts a ++ dottedParts b := by
  have hlist : (a ++ "." ++ b).toList = a.toList ++ '.' :: b.toList := by simp
  simp only [dottedParts, splitAtChar_eq_splitOn]
  rw [hlist, List.splitOn_append_cons_self, List.map_append]

theorem dottedParts_eq_singleton (hdot : '.' ∉ text.toList) : dottedParts text = [text] := by
  rw [dottedParts, splitAtChar_eq_splitOn, List.splitOn_eq_singleton hdot, List.map_singleton,
    String.ofList_toList]

theorem not_mem_of_mem_dottedParts (hpart : part ∈ dottedParts text) : '.' ∉ part.toList := by
  obtain ⟨chars, hchars, rfl⟩ := List.mem_map.1 hpart
  rw [String.toList_ofList]
  exact not_mem_of_mem_splitAtChar hchars

/-- The parts of a text make it up again. -/
theorem dotted_dottedParts (text : String) : dotted (dottedParts text) = text := by
  refine String.ext ?_
  have hparts : (dottedParts text).map String.toList = text.toList.splitOn '.' := by
    rw [dottedParts, splitAtChar_eq_splitOn, List.map_map]
    exact (List.map_congr_left fun chars _ => String.toList_ofList).trans (List.map_id _)
  rw [dotted, String.toList_intercalate, hparts]
  exact List.intercalate_splitOn '.'

/-- Parts without dots are read back. -/
theorem dottedParts_dotted {parts : List String} (hne : parts ≠ [])
    (hdots : ∀ part ∈ parts, '.' ∉ part.toList) : dottedParts (dotted parts) = parts := by
  have hread : (['.'].intercalate (parts.map String.toList)).splitOn '.' =
      parts.map String.toList := by
    refine List.splitOn_intercalate '.' (fun chars hchars => ?_) (by simpa using hne)
    obtain ⟨part, hpart, rfl⟩ := List.mem_map.1 hchars
    exact hdots part hpart
  rw [dottedParts, splitAtChar_eq_splitOn, dotted, String.toList_intercalate]
  refine (congrArg (List.map String.ofList) hread).trans ?_
  rw [List.map_map]
  exact (List.map_congr_left fun part _ => String.ofList_toList).trans (List.map_id _)

/-! ### Empty parts -/

/-- The first part is empty where a text is empty or begins with the mark. -/
theorem head?_splitOn_eq_nil_iff {mark : Char} {text : List Char} :
    (text.splitOn mark).head? = some [] ↔ text = [] ∨ text.head? = some mark := by
  cases text with
  | nil => simp
  | cons c rest =>
    rw [List.splitOn_cons_eq_if_modifyHead]
    by_cases hmark : c = mark
    · simp [hmark]
    · have hne := splitAtChar_ne_nil mark rest
      rw [splitAtChar_eq_splitOn] at hne
      obtain ⟨first, others, hsplit⟩ := List.exists_cons_of_ne_nil hne
      simp [hmark, hsplit]

/-- Any other part is empty where the mark stands twice in a row, or ends the text. -/
theorem nil_mem_tail_splitOn {mark : Char} {text : List Char}
    (hempty : [] ∈ (text.splitOn mark).tail) :
    [mark, mark] <:+: text ∨ [mark] <:+ text := by
  induction text with
  | nil => simp at hempty
  | cons c rest ih =>
    have hstays : [mark, mark] <:+: rest ∨ [mark] <:+ rest →
        [mark, mark] <:+: c :: rest ∨ [mark] <:+ c :: rest :=
      .imp (fun hinfix => hinfix.trans (List.suffix_cons c rest).isInfix)
        fun hsuffix => hsuffix.trans (List.suffix_cons c rest)
    have hne := splitAtChar_ne_nil mark rest
    rw [splitAtChar_eq_splitOn] at hne
    obtain ⟨first, others, hsplit⟩ := List.exists_cons_of_ne_nil hne
    rw [List.splitOn_cons_eq_if_modifyHead] at hempty
    rw [hsplit] at hempty ih
    by_cases hmark : (c == mark) = true
    · rw [if_pos hmark, List.tail_cons, List.mem_cons] at hempty
      obtain rfl : c = mark := by simpa using hmark
      rcases hempty with rfl | hothers
      · rcases head?_splitOn_eq_nil_iff.1 (congrArg List.head? hsplit) with rfl | hhead
        · exact .inr (List.suffix_refl _)
        · obtain ⟨rest', rfl⟩ := List.head?_eq_some_iff.1 hhead
          exact .inl ⟨[], rest', rfl⟩
      · exact hstays (ih hothers)
    · rw [if_neg hmark] at hempty
      exact hstays (ih hempty)

/-- A text that neither begins nor ends with a dot has an empty part where two dots meet. -/
theorem empty_mem_dottedParts_iff (hne : text ≠ "") (hhead : text.toList.head? ≠ some '.')
    (hlast : ¬ ['.'] <:+ text.toList) :
    "" ∈ dottedParts text ↔ ['.', '.'] <:+: text.toList := by
  have hmem : "" ∈ dottedParts text ↔ [] ∈ text.toList.splitOn '.' := by
    rw [dottedParts, splitAtChar_eq_splitOn, List.mem_map]
    constructor
    · rintro ⟨chars, hchars, hnil⟩
      rwa [String.ofList_eq_empty_iff.1 hnil] at hchars
    · exact fun hnil => ⟨[], hnil, rfl⟩
  rw [hmem]
  constructor
  · intro hempty
    have hsplit := splitAtChar_ne_nil '.' text.toList
    rw [splitAtChar_eq_splitOn] at hsplit
    obtain ⟨first, others, hcons⟩ := List.exists_cons_of_ne_nil hsplit
    rw [hcons, List.mem_cons] at hempty
    rcases hempty with rfl | hothers
    · have hstart := head?_splitOn_eq_nil_iff.1 (congrArg List.head? hcons)
      exact absurd hstart (by simpa [hne] using hhead)
    · have htail : [] ∈ (text.toList.splitOn '.').tail := by rwa [hcons]
      exact (nil_mem_tail_splitOn htail).resolve_right hlast
  · rintro ⟨before, after, htext⟩
    rw [← htext, List.append_assoc, List.cons_append, List.splitOn_append_cons_self,
      List.cons_append, List.nil_append, List.splitOn_cons_eq_if_modifyHead]
    simp

/-! ### The last occurrence -/

/-- A text up to the last occurrence of a mark ends in that mark, if it occurs. -/
theorem throughLast_eq_nil_or (mark : Char) (text : List Char) :
    throughLast mark text = [] ∨ ∃ before, throughLast mark text = before ++ [mark] := by
  change text.rdropWhile (· != mark) = [] ∨ ∃ before, text.rdropWhile (· != mark) = before ++ [mark]
  by_cases hnil : text.rdropWhile (· != mark) = []
  · exact .inl hnil
  · have hlast := List.rdropWhile_last_not (· != mark) text hnil
    refine .inr ⟨(text.rdropWhile (· != mark)).dropLast, ?_⟩
    conv_lhs => rw [← List.dropLast_append_getLast hnil]
    simp only [bne_iff_ne, ne_eq, not_not] at hlast
    rw [hlast]

theorem throughLast_prefix (mark : Char) (text : List Char) : throughLast mark text <+: text :=
  List.rdropWhile_prefix _ text

end ScriptBridge.Text
