import Mathlib
import ScriptBridge.Artifact.Registrations

/-!
# Unions in script types

A type is a union if a bar stands in its text outside all angle brackets. As long as brackets match, a
union between them does not make a union of the whole.
-/

namespace ScriptBridge.Script

/-! ### Brackets that match -/

/-- Angle brackets match: none is closed before it is opened, and none stays open. -/
structure Balanced (text : List Char) : Prop where
  opened : ∀ before, before <+: text → before.count '>' ≤ before.count '<'
  closed : text.count '>' = text.count '<'

/-- A text without bars and angle brackets. -/
def IsSimple (text : List Char) : Prop :=
  ∀ c ∈ text, c ≠ '|' ∧ c ≠ '<' ∧ c ≠ '>'

instance : DecidablePred IsSimple := fun text =>
  List.decidableBAll (fun c => c ≠ '|' ∧ c ≠ '<' ∧ c ≠ '>') text

section Balanced

variable {text other : List Char}

theorem IsSimple.bar_not_mem (hsimple : IsSimple text) : '|' ∉ text :=
  fun hmem => (hsimple _ hmem).1 rfl

theorem IsSimple.count_opening (hsimple : IsSimple text) : text.count '<' = 0 :=
  List.count_eq_zero.2 fun hmem => (hsimple _ hmem).2.1 rfl

theorem IsSimple.count_closing (hsimple : IsSimple text) : text.count '>' = 0 :=
  List.count_eq_zero.2 fun hmem => (hsimple _ hmem).2.2 rfl

theorem IsSimple.append (hsimple : IsSimple text) (hother : IsSimple other) :
    IsSimple (text ++ other) :=
  List.forall_mem_append.2 ⟨hsimple, hother⟩

theorem balanced_of_count (hopening : text.count '<' = 0) (hclosing : text.count '>' = 0) :
    Balanced text where
  opened before hstarts := by
    have hle := hstarts.sublist.count_le '>'
    omega
  closed := hclosing.trans hopening.symm

theorem IsSimple.balanced (hsimple : IsSimple text) : Balanced text :=
  balanced_of_count hsimple.count_opening hsimple.count_closing

theorem Balanced.append (hbalanced : Balanced text) (hother : Balanced other) :
    Balanced (text ++ other) where
  opened before hstarts := by
    obtain hbefore | hbefore :=
      List.prefix_or_prefix_of_prefix hstarts (List.prefix_append text other)
    · exact hbalanced.opened before hbefore
    · obtain ⟨rest, rfl⟩ := hbefore
      have hrest := hother.opened rest ((List.prefix_append_right_inj text).1 hstarts)
      rw [List.count_append, List.count_append, hbalanced.closed]
      omega
  closed := by rw [List.count_append, List.count_append, hbalanced.closed, hother.closed]

/-- Inside brackets around a balanced text, one more is opened than closed at least. -/
theorem Balanced.count_lt_of_prefix (hbalanced : Balanced text) {before : List Char}
    (hstarts : before <+: text) : ('<' :: before).count '>' < ('<' :: before).count '<' := by
  have hle := hbalanced.opened before hstarts
  rw [List.count_cons_self, List.count_cons_of_ne (by decide)]
  omega

theorem Balanced.enclosed (hbalanced : Balanced text) : Balanced ('<' :: text ++ ['>']) where
  opened before hstarts := by
    rw [List.prefix_concat_iff] at hstarts
    obtain rfl | hbefore := hstarts
    · simp [hbalanced.closed]
    · cases before with
      | nil => exact le_rfl
      | cons c before =>
        obtain ⟨rfl, hinner⟩ := List.cons_prefix_cons.1 hbefore
        exact (hbalanced.count_lt_of_prefix hinner).le
  closed := by simp [hbalanced.closed]

theorem isSimple_of_isAlpha (hletters : ∀ c ∈ text, c.isAlpha = true) : IsSimple text := by
  intro c hmem
  have hletter := hletters c hmem
  refine ⟨?_, ?_, ?_⟩ <;>
  · rintro rfl
    exact absurd hletter (by decide)

theorem Balanced.intercalate {separator : String} (hseparator : Balanced separator.toList)
    {texts : List String} (htexts : ∀ text ∈ texts, Balanced text.toList) :
    Balanced (String.intercalate separator texts).toList := by
  induction texts with
  | nil => exact balanced_of_count rfl rfl
  | cons first rest ih =>
    obtain ⟨hfirst, hrest⟩ := List.forall_mem_cons.1 htexts
    cases rest with
    | nil => exact String.intercalate_singleton ▸ hfirst
    | cons next rest =>
      rw [String.intercalate_cons_cons, String.toList_append, String.toList_append]
      exact (hfirst.append hseparator).append (ih hrest)

end Balanced

/-! ### Unions -/

/-- A bar stands outside all angle brackets. -/
def IsUnion (text : String) : Prop :=
  ∃ before after, text.toList = before ++ '|' :: after ∧ before.count '<' = before.count '>'

section IsUnion

open Registration (applied)

variable {text name : String} {args : List String}

theorem toList_applied (name : String) (args : List String) : (applied name args).toList =
    name.toList ++ ('<' :: (String.intercalate ", " args).toList ++ ['>']) := by
  have hopening : "<".toList = ['<'] := rfl
  have hclosing : ">".toList = ['>'] := rfl
  rw [applied, String.toList_append, String.toList_append, String.toList_append, hopening, hclosing]
  simp

theorem balanced_comma : Balanced ", ".toList :=
  balanced_of_count (by decide) (by decide)

theorem balanced_applied (hname : IsSimple name.toList)
    (hargs : ∀ arg ∈ args, Balanced arg.toList) : Balanced (applied name args).toList := by
  rw [toList_applied]
  exact hname.balanced.append (balanced_comma.intercalate hargs).enclosed

theorem IsSimple.not_isUnion (hsimple : IsSimple text.toList) : ¬ IsUnion text := by
  rintro ⟨before, after, htext, -⟩
  exact hsimple.bar_not_mem (by simp [htext])

/-- All that stands in arguments is inside the brackets around them. -/
theorem not_isUnion_applied (hname : IsSimple name.toList)
    (hargs : ∀ arg ∈ args, Balanced arg.toList) : ¬ IsUnion (applied name args) := by
  have hinner := balanced_comma.intercalate hargs
  rintro ⟨before, after, htext, hcount⟩
  rw [toList_applied] at htext
  -- The bar stands after the opening bracket, where more is open than closed, or else in the name.
  obtain ⟨rest, hbefore, hrest⟩ | ⟨rest, hbefore, hrest⟩ := List.append_eq_append_iff.1 htext
  · cases rest with
    | nil => cases hrest
    | cons c rest =>
      obtain ⟨rfl, hinside⟩ := List.cons.inj hrest
      have hstarts : rest <+: (String.intercalate ", " args).toList := by
        have hlong : rest ++ ['|'] <+: (String.intercalate ", " args).toList ++ ['>'] :=
          ⟨after, (List.append_assoc ..).trans hinside.symm⟩
        obtain heq | hshort := List.prefix_concat_iff.1 hlong
        · exact absurd (List.append_inj_right' heq rfl) (by decide)
        · exact (List.prefix_append _ _).trans hshort
      have hlt := hinner.count_lt_of_prefix hstarts
      rw [hbefore, List.count_append, List.count_append, hname.count_opening,
        hname.count_closing] at hcount
      omega
  · cases rest with
    | nil => cases hrest
    | cons c rest =>
      obtain ⟨rfl, -⟩ := List.cons.inj hrest
      exact hname.bar_not_mem (by simp [hbefore])

theorem isUnion_union (hbalanced : Balanced text.toList) (absent : String) :
    IsUnion (text ++ " | " ++ absent) := by
  refine ⟨text.toList ++ [' '], ' ' :: absent.toList, by simp, ?_⟩
  rw [List.count_append, List.count_append, hbalanced.closed]
  rfl

theorem toList_union (text absent : String) :
    (text ++ " | " ++ absent).toList = text.toList ++ ' ' :: '|' :: ' ' :: absent.toList := by
  simp

theorem balanced_union (hbalanced : Balanced text.toList) {absent : String}
    (habsent : IsSimple absent.toList) : Balanced (text ++ " | " ++ absent).toList := by
  have hbar : Balanced " | ".toList := balanced_of_count (by decide) (by decide)
  rw [String.toList_append, String.toList_append]
  exact (hbalanced.append hbar).append habsent.balanced

end IsUnion

/-! ### Alternatives -/

/-- The word at the start of a text, after blanks. -/
def firstWord (text : List Char) : String :=
  String.ofList ((text.dropWhile (· == ' ')).takeWhile Char.isAlpha)

/-- The words after the bars of a text. -/
def alternatives : List Char → List String
  | [] => []
  | c :: rest => if c = '|' then firstWord rest :: alternatives rest else alternatives rest

section Alternatives

open Registration (applied)

variable {text other : List Char}

theorem alternatives_of_not_mem (hbar : '|' ∉ text) : alternatives text = [] := by
  induction text with
  | nil => rfl
  | cons c rest ih =>
    rw [List.mem_cons, not_or] at hbar
    rw [alternatives, if_neg (Ne.symm hbar.1), ih hbar.2]

theorem alternatives_append_of_not_mem (hbar : '|' ∉ text) :
    alternatives (text ++ other) = alternatives other := by
  induction text with
  | nil => rfl
  | cons c rest ih =>
    rw [List.mem_cons, not_or] at hbar
    rw [List.cons_append, alternatives, if_neg (Ne.symm hbar.1), ih hbar.2]

/-- What follows a word does not change it, unless it starts with a letter. -/
theorem firstWord_append (hword : firstWord text ≠ "")
    (hother : ∀ c ∈ other.head?, c.isAlpha = false) :
    firstWord (text ++ other) = firstWord text := by
  have hne : text.dropWhile (· == ' ') ≠ [] := by
    intro hnil
    rw [firstWord, hnil] at hword
    exact hword rfl
  have hdrop : (text ++ other).dropWhile (· == ' ') = text.dropWhile (· == ' ') ++ other := by
    rw [List.dropWhile_append, if_neg (by simpa using hne)]
  rw [firstWord, firstWord, hdrop, List.takeWhile_append]
  split
  · rename_i hall
    have hstop : other.takeWhile Char.isAlpha = [] := by
      cases other with
      | nil => rfl
      | cons c rest => rw [List.takeWhile_cons, hother c rfl, if_neg Bool.false_ne_true]
    rw [hstop, List.append_nil, (List.takeWhile_prefix _).eq_of_length hall]
  · rfl

theorem alternatives_append (hwords : "" ∉ alternatives text)
    (hother : ∀ c ∈ other.head?, c.isAlpha = false) :
    alternatives (text ++ other) = alternatives text ++ alternatives other := by
  induction text with
  | nil => rfl
  | cons c rest ih =>
    rw [List.cons_append, alternatives, alternatives]
    rw [alternatives] at hwords
    by_cases hbar : c = '|'
    · rw [if_pos hbar, List.mem_cons, not_or] at hwords
      rw [if_pos hbar, if_pos hbar, firstWord_append (Ne.symm hwords.1) hother, ih hwords.2,
        List.cons_append]
    · rw [if_neg hbar] at hwords
      rw [if_neg hbar, if_neg hbar, ih hwords]

theorem alternatives_intercalate {texts : List String}
    (hwords : ∀ text ∈ texts, "" ∉ alternatives text.toList) :
    alternatives (String.intercalate ", " texts).toList =
      texts.flatMap fun text => alternatives text.toList := by
  induction texts with
  | nil => rfl
  | cons first rest ih =>
    obtain ⟨hfirst, hrest⟩ := List.forall_mem_cons.1 hwords
    cases rest with
    | nil => rw [String.intercalate_singleton, List.flatMap_singleton]
    | cons next rest =>
      have hcomma : ", ".toList = [',', ' '] := rfl
      rw [String.intercalate_cons_cons, String.append_assoc, String.toList_append,
        String.toList_append, hcomma, alternatives_append hfirst (by simp),
        alternatives_append_of_not_mem (by decide), ih hrest]
      rfl

theorem alternatives_applied {name : String} {args : List String} (hname : IsSimple name.toList)
    (hwords : ∀ arg ∈ args, "" ∉ alternatives arg.toList) :
    alternatives (applied name args).toList =
      args.flatMap fun arg => alternatives arg.toList := by
  have hargs := alternatives_intercalate hwords
  have hinner : "" ∉ alternatives (String.intercalate ", " args).toList := by
    rw [hargs, List.mem_flatMap]
    rintro ⟨arg, harg, hempty⟩
    exact hwords arg harg hempty
  rw [toList_applied, alternatives_append_of_not_mem hname.bar_not_mem, List.cons_append,
    alternatives, if_neg (by decide), alternatives_append hinner (by simp), hargs]
  exact List.append_nil _

/-- The last word of a union is that of its last member. -/
theorem alternatives_union {text absent : String} (hwords : "" ∉ alternatives text.toList)
    (habsent : ∀ c ∈ absent.toList, c.isAlpha = true) :
    alternatives (text ++ " | " ++ absent).toList = alternatives text.toList ++ [absent] := by
  have hbar : '|' ∉ ' ' :: absent.toList := by
    rw [List.mem_cons, not_or]
    exact ⟨by decide, fun hmem => absurd (habsent _ hmem) (by decide)⟩
  have hblank : (' ' :: absent.toList).dropWhile (· == ' ') = absent.toList := by
    rw [List.dropWhile_cons_of_pos rfl, List.dropWhile_eq_self_iff]
    intro hpos
    have hletter := habsent _ (List.getElem_mem hpos)
    intro heq
    rw [beq_iff_eq.1 heq] at hletter
    exact absurd hletter (by decide)
  have hword : firstWord (' ' :: absent.toList) = absent := by
    rw [firstWord, hblank, List.takeWhile_eq_self_iff.2 habsent, String.ofList_toList]
  rw [toList_union, alternatives_append hwords (by simp), alternatives, if_neg (by decide),
    alternatives, if_pos rfl, hword, alternatives_of_not_mem hbar]

example : alternatives "Array<number | null> | undefined".toList = ["null", "undefined"] := by cbv

end Alternatives

end ScriptBridge.Script
