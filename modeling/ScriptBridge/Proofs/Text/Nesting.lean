import Mathlib.Algebra.Order.Ring.Int
import Mathlib.Data.List.Infix
import Mathlib.Data.String.Basic
import Mathlib.Tactic.Linarith

/-!
# Brackets and commas

Texts with all their commas inside brackets can be joined by commas and told apart again: a comma outside
all brackets is one that they were joined by.
-/

namespace ScriptBridge.Text

/-- How many brackets a text opens without closing them, less those that it closes without opening
them. -/
def nesting (text : List Char) : Int :=
  text.count '<' + text.count '(' - text.count '>' - text.count ')'

@[simp]
theorem nesting_append (text other : List Char) :
    nesting (text ++ other) = nesting text + nesting other := by
  simp only [nesting, List.count_append, Nat.cast_add]
  omega

theorem nesting_cons (c : Char) (text : List Char) :
    nesting (c :: text) = nesting [c] + nesting text :=
  nesting_append [c] text

/-- Brackets match: none is closed before it is opened, and none stays open. -/
structure Nested (text : List Char) : Prop where
  opened : ∀ before, before <+: text → 0 ≤ nesting before
  closed : nesting text = 0

/-- Brackets match, and all commas stand inside of some. -/
structure Sealed (text : List Char) : Prop extends Nested text where
  commas : ∀ before, before ++ [','] <+: text → 0 < nesting before

/-- A text without brackets and commas. -/
def IsPlain (text : List Char) : Prop :=
  ∀ c ∈ text, c ≠ '<' ∧ c ≠ '>' ∧ c ≠ '(' ∧ c ≠ ')' ∧ c ≠ ','

instance : DecidablePred IsPlain := fun text =>
  List.decidableBAll (fun c => c ≠ '<' ∧ c ≠ '>' ∧ c ≠ '(' ∧ c ≠ ')' ∧ c ≠ ',') text

variable {text other : List Char}

theorem nesting_of_unbracketed (hbrackets : ∀ c ∈ text, c ≠ '<' ∧ c ≠ '>' ∧ c ≠ '(' ∧ c ≠ ')') :
    nesting text = 0 := by
  have hcount : ∀ c ∈ ['<', '>', '(', ')'], text.count c = 0 := by
    intro c hc
    rw [List.count_eq_zero]
    intro hmem
    have hapart := hbrackets c hmem
    simp only [List.mem_cons, List.not_mem_nil, or_false] at hc
    tauto
  simp [nesting, hcount]

theorem nested_of_unbracketed (hbrackets : ∀ c ∈ text, c ≠ '<' ∧ c ≠ '>' ∧ c ≠ '(' ∧ c ≠ ')') :
    Nested text where
  opened _ hstarts :=
    (nesting_of_unbracketed fun c hmem => hbrackets c (hstarts.subset hmem)).ge
  closed := nesting_of_unbracketed hbrackets

theorem IsPlain.append (hplain : IsPlain text) (hother : IsPlain other) : IsPlain (text ++ other) :=
  List.forall_mem_append.2 ⟨hplain, hother⟩

theorem IsPlain.sealed (hplain : IsPlain text) : Sealed text where
  toNested := nested_of_unbracketed fun c hmem =>
    let hc := hplain c hmem
    ⟨hc.1, hc.2.1, hc.2.2.1, hc.2.2.2.1⟩
  commas _ hstarts := by
    have hcomma : ',' ∈ text := hstarts.subset (by simp)
    exact absurd rfl (hplain ',' hcomma).2.2.2.2

/-! ### Texts after one another -/

/-- What a concatenation starts with is in its first part, or goes on into the second. -/
theorem prefix_append_cases {before : List Char} (hstarts : before <+: text ++ other) :
    before <+: text ∨ ∃ rest, rest ≠ [] ∧ rest <+: other ∧ before = text ++ rest := by
  obtain hshort | ⟨rest, rfl⟩ :=
    List.prefix_or_prefix_of_prefix hstarts (List.prefix_append text other)
  · exact .inl hshort
  · by_cases hrest : rest = []
    · rw [hrest, List.append_nil]
      exact .inl List.prefix_rfl
    · exact .inr ⟨rest, hrest, (List.prefix_append_right_inj text).1 hstarts, rfl⟩

theorem Nested.append (hnested : Nested text) (hother : Nested other) : Nested (text ++ other) where
  opened before hstarts := by
    obtain hshort | ⟨rest, -, hrest, rfl⟩ := prefix_append_cases hstarts
    · exact hnested.opened before hshort
    · rw [nesting_append, hnested.closed, zero_add]
      exact hother.opened rest hrest
  closed := by rw [nesting_append, hnested.closed, hother.closed, zero_add]

theorem Sealed.append (hsealed : Sealed text) (hother : Sealed other) : Sealed (text ++ other) where
  toNested := hsealed.toNested.append hother.toNested
  commas before hstarts := by
    obtain hshort | ⟨rest, hne, hrest, heq⟩ := prefix_append_cases hstarts
    · exact hsealed.commas before hshort
    · obtain ⟨rest, c, rfl⟩ := List.eq_nil_or_concat' rest |>.resolve_left hne
      rw [← List.append_assoc] at heq
      obtain ⟨rfl, hc⟩ := List.append_inj' heq rfl
      obtain rfl := List.singleton_inj.1 hc
      rw [nesting_append, hsealed.closed, zero_add]
      exact hother.commas rest hrest

/-- Inside brackets commas are sealed. -/
theorem Nested.enclosed (hnested : Nested text) {opening closing : Char}
    (hopening : nesting [opening] = 1) (hclosing : nesting [closing] = -1)
    (hcommas : opening ≠ ',' ∧ closing ≠ ',') : Sealed (opening :: text ++ [closing]) := by
  have hcases : ∀ before, before <+: opening :: text ++ [closing] →
      before = [] ∨ before = opening :: text ++ [closing] ∨ 0 < nesting before := by
    intro before hstarts
    obtain rfl | hbefore := List.prefix_concat_iff.1 hstarts
    · exact .inr (.inl rfl)
    · cases before with
      | nil => exact .inl rfl
      | cons c before =>
        obtain ⟨rfl, hinner⟩ := List.cons_prefix_cons.1 hbefore
        have hle := hnested.opened before hinner
        rw [nesting_cons, hopening]
        exact .inr (.inr (by omega))
  have hwhole : nesting (opening :: text ++ [closing]) = 0 := by
    rw [nesting_append, nesting_cons, hopening, hclosing, hnested.closed]
    rfl
  refine { opened := fun before hstarts => ?_, closed := hwhole, commas := fun before hstarts => ?_ }
  · obtain rfl | rfl | hpositive := hcases before hstarts
    · exact le_rfl
    · exact hwhole.ge
    · exact hpositive.le
  · obtain rfl | rfl | hpositive := hcases before ((List.prefix_append _ _).trans hstarts)
    · exact absurd (List.cons_prefix_cons.1 hstarts).1.symm hcommas.1
    · exact absurd hstarts.length_le (by simp)
    · exact hpositive

/-! ### Texts joined by commas -/

/-- What follows the first of some texts that are joined by commas. -/
def afterFirst : List String → List Char
  | [] => []
  | texts => ',' :: ' ' :: (String.intercalate ", " texts).toList

theorem toList_intercalate_cons (first : String) (rest : List String) :
    (String.intercalate ", " (first :: rest)).toList = first.toList ++ afterFirst rest := by
  have hcomma : ", ".toList = [',', ' '] := rfl
  cases rest with
  | nil => simp [afterFirst]
  | cons next rest => simp [afterFirst, String.intercalate_cons_cons, hcomma]

theorem nested_intercalate {texts : List String} (htexts : ∀ text ∈ texts, Sealed text.toList) :
    Nested (String.intercalate ", " texts).toList := by
  have hcomma : Nested [',', ' '] := nested_of_unbracketed (by simp)
  induction texts with
  | nil => exact nested_of_unbracketed nofun
  | cons first rest ih =>
    obtain ⟨hfirst, hrest⟩ := List.forall_mem_cons.1 htexts
    rw [toList_intercalate_cons]
    refine hfirst.toNested.append ?_
    cases rest with
    | nil => exact nested_of_unbracketed nofun
    | cons next rest => exact hcomma.append (ih hrest)

theorem head?_afterFirst (texts : List String) : ∀ c ∈ (afterFirst texts).head?, c = ',' := by
  cases texts with
  | nil => exact nofun
  | cons text texts =>
    rintro c ⟨⟩
    rfl

theorem intercalate_eq_of_afterFirst_eq {texts others : List String}
    (heq : afterFirst texts = afterFirst others) :
    String.intercalate ", " texts = String.intercalate ", " others := by
  cases texts with
  | nil =>
    cases others with
    | nil => rfl
    | cons other others => cases heq
  | cons text texts =>
    cases others with
    | nil => cases heq
    | cons other others =>
      rw [afterFirst, afterFirst, List.cons.injEq, List.cons.injEq] at heq
      · exact String.toList_inj.1 heq.2.2
      all_goals simp

/-- A sealed text does not go on with a comma. -/
theorem Sealed.eq_nil_of_append (hsealed : Sealed text) {more : List Char}
    (hlong : Sealed (text ++ more)) (hmore : ∀ c ∈ more.head?, c = ',') : more = [] := by
  cases more with
  | nil => rfl
  | cons c more =>
    obtain rfl := hmore c rfl
    have hopen := hlong.commas text ⟨more, by simp⟩
    rw [hsealed.closed] at hopen
    exact absurd hopen (lt_irrefl 0)

/-- A sealed text ends where the first comma outside brackets stands. -/
theorem Sealed.eq_of_append_eq (hsealed : Sealed text) (hother : Sealed other)
    {after otherAfter : List Char} (hafter : ∀ c ∈ after.head?, c = ',')
    (hotherAfter : ∀ c ∈ otherAfter.head?, c = ',') (heq : text ++ after = other ++ otherAfter) :
    text = other := by
  have hhead : ∀ more rest : List Char, (∀ c ∈ (more ++ rest).head?, c = ',') →
      ∀ c ∈ more.head?, c = ',' := by
    intro more rest hall c hc
    cases more with
    | nil => cases hc
    | cons first more => exact hall c hc
  obtain ⟨more, rfl, hmore⟩ | ⟨more, rfl, hmore⟩ := List.append_eq_append_iff.1 heq
  · rw [hsealed.eq_nil_of_append hother (hhead more otherAfter (hmore ▸ hafter)), List.append_nil]
  · rw [hother.eq_nil_of_append hsealed (hhead more after (hmore ▸ hotherAfter)), List.append_nil]

/-- Sealed texts are found again in what they are joined to. -/
theorem eq_of_intercalate_eq {texts others : List String}
    (htexts : ∀ text ∈ texts, text ≠ "" ∧ Sealed text.toList)
    (hothers : ∀ text ∈ others, text ≠ "" ∧ Sealed text.toList)
    (heq : String.intercalate ", " texts = String.intercalate ", " others) : texts = others := by
  have hempty : ∀ (first : String) (rest : List String), first ≠ "" →
      String.intercalate ", " (first :: rest) ≠ "" := by
    intro first rest hne hnil
    have hchars := congrArg String.toList hnil
    rw [toList_intercalate_cons, String.toList_empty, List.append_eq_nil_iff] at hchars
    exact hne (String.toList_inj.1 hchars.1)
  induction texts generalizing others with
  | nil =>
    cases others with
    | nil => rfl
    | cons other others =>
      exact absurd heq.symm (hempty other others (hothers other List.mem_cons_self).1)
  | cons text texts ih =>
    obtain ⟨⟨hne, hsealed⟩, hrest⟩ := List.forall_mem_cons.1 htexts
    cases others with
    | nil => exact absurd heq (hempty text texts hne)
    | cons other others =>
      obtain ⟨⟨-, hother⟩, hotherRest⟩ := List.forall_mem_cons.1 hothers
      have hchars := congrArg String.toList heq
      rw [toList_intercalate_cons, toList_intercalate_cons] at hchars
      have hfirst := hsealed.eq_of_append_eq hother (head?_afterFirst texts)
        (head?_afterFirst others) hchars
      rw [hfirst, List.append_cancel_left_eq] at hchars
      rw [String.toList_inj.1 hfirst, ih hrest hotherRest (intercalate_eq_of_afterFirst_eq hchars)]

end ScriptBridge.Text
