import Mathlib
import ScriptBridge.Naming
import ScriptBridge.Proofs.Text.Runs
import ScriptBridge.Text.Identifier

/-!
# Tokens of script text

How a script reads what is written into it: words, whole numbers, string literals between double quotes,
and single characters. White space between tokens does not matter.
-/

namespace ScriptBridge.Script

inductive Token
  | word (text : String)
  | numeral (text : String)
  | literal (text : String)
  | mark (c : Char)
  /-- A string literal without its closing quote. -/
  | unclosed
deriving Repr, DecidableEq

/-- The content of a string literal after its opening quote, and what follows the closing one. A
backslash makes the next character literal. -/
def readQuoted : List Char → Option (List Char × List Char)
  | [] => none
  | '"' :: rest => some ([], rest)
  | ['\\'] => none
  | '\\' :: c :: rest => (readQuoted rest).map fun (content, after) => (c :: content, after)
  | c :: rest => (readQuoted rest).map fun (content, after) => (c :: content, after)

theorem length_lt_of_readQuoted {text content after : List Char}
    (hread : readQuoted text = some (content, after)) : after.length < text.length := by
  induction text using readQuoted.induct generalizing content with
  | case1 => cases hread
  | case2 rest =>
    cases hread
    exact Nat.lt_succ_self _
  | case3 => cases hread
  | case4 c rest ih =>
    obtain ⟨⟨inner, _⟩, hrest, heq⟩ := Option.map_eq_some_iff.1 hread
    cases heq
    have hlt := ih hrest
    simp only [List.length_cons]
    omega
  | case5 c rest hquote hlast hescape ih =>
    rw [readQuoted] at hread
    · obtain ⟨⟨inner, _⟩, hrest, heq⟩ := Option.map_eq_some_iff.1 hread
      cases heq
      exact (ih hrest).trans (Nat.lt_succ_self _)
    all_goals assumption

def startsWord (c : Char) : Bool :=
  c == '$' || Text.startsIdentifier c

def continuesWord (c : Char) : Bool :=
  c == '$' || Text.continuesIdentifier c

/-- A name as scripts have them: an identifier in which dollar signs may stand. -/
def isName : List Char → Bool
  | [] => false
  | c :: rest => startsWord c && rest.all continuesWord

def isNumeral (c : Char) : Bool :=
  c == '-' || c.isDigit

def tokens (text : List Char) : List Token :=
  match text with
  | [] => []
  | c :: rest =>
    if startsWord c then
      .word (String.ofList (c :: rest.takeWhile continuesWord)) ::
        tokens (rest.dropWhile continuesWord)
    else if isNumeral c then
      .numeral (String.ofList (c :: rest.takeWhile isNumeral)) :: tokens (rest.dropWhile isNumeral)
    else if c == '"' then
      match _hread : readQuoted rest with
      | none => [.unclosed]
      | some (content, after) => .literal (String.ofList content) :: tokens after
    else if Text.isBlank c then tokens rest
    else .mark c :: tokens rest
termination_by text.length
decreasing_by
  · exact Nat.lt_succ_of_le (List.length_dropWhile_le _ _)
  · exact Nat.lt_succ_of_le (List.length_dropWhile_le _ _)
  · exact (length_lt_of_readQuoted _hread).trans (Nat.lt_succ_self _)
  · exact Nat.lt_succ_self _
  · exact Nat.lt_succ_self _

/-! ### String literals -/

/-- A written literal ends at its last quote, whatever the text in it. -/
theorem readQuoted_literal (text rest : List Char) :
    readQuoted (text.flatMap Naming.literalChar ++ '"' :: rest) = some (text, rest) := by
  induction text with
  | nil => rfl
  | cons c text ih =>
    rw [List.flatMap_cons, List.append_assoc]
    by_cases hbackslash : c = '\\'
    · subst hbackslash
      exact congrArg (Option.map _) ih
    by_cases hquote : c = '"'
    · subst hquote
      exact congrArg (Option.map _) ih
    · have hplain : Naming.literalChar c = [c] := by
        simp [Naming.literalChar, hbackslash, hquote]
      rw [hplain, List.singleton_append, readQuoted, ih]
      · rfl
      all_goals simp [hbackslash, hquote]

theorem tokens_stringLiteral (text : String) (rest : List Char) :
    tokens ((Naming.stringLiteral text).toList ++ rest) = .literal text :: tokens rest := by
  have hread := readQuoted_literal text.toList rest
  have hword : startsWord '"' = false := by decide +kernel
  have hchars : (Naming.stringLiteral text).toList ++ rest =
      '"' :: (text.toList.flatMap Naming.literalChar ++ '"' :: rest) := by
    simp [Naming.stringLiteral]
  rw [hchars, tokens, if_neg (by simp [hword]), if_neg (by decide),
    if_pos (beq_self_eq_true _)]
  split
  · rename_i hnone
    rw [hread] at hnone
    cases hnone
  · rename_i content after hsome
    rw [hread] at hsome
    cases hsome
    rw [String.ofList_toList]

/-! ### Words and numbers -/

/-- A text does not go on with a character of a class. -/
def StopsAt (p : Char → Bool) (rest : List Char) : Prop :=
  ∀ c ∈ rest.head?, p c = false

theorem tokens_word {name : String} {rest : List Char} (hname : isName name.toList = true)
    (hstop : StopsAt continuesWord rest) :
    tokens (name.toList ++ rest) = .word name :: tokens rest := by
  cases hchars : name.toList with
  | nil =>
    rw [hchars] at hname
    cases hname
  | cons c run =>
    rw [hchars, isName, Bool.and_eq_true] at hname
    obtain ⟨hstart, hrun⟩ := hname
    have hrun := List.all_eq_true.1 hrun
    rw [List.cons_append, tokens, if_pos hstart, Text.takeWhile_append_of_stop hrun hstop,
      Text.dropWhile_append_of_stop hrun hstop, ← hchars, String.ofList_toList]

theorem startsWord_of_isNumeral {c : Char} (hc : isNumeral c = true) : startsWord c = false := by
  have hminus : startsWord '-' = false := by decide +kernel
  have hdigits : ∀ code, code < 58 → 48 ≤ code → startsWord (Char.ofNat code) = false := by
    decide +kernel
  rw [isNumeral, Bool.or_eq_true, beq_iff_eq] at hc
  rcases hc with rfl | hc
  · exact hminus
  · obtain ⟨hlow, hhigh⟩ : 48 ≤ c.toNat ∧ c.toNat ≤ 57 := Char.isDigit_iff_toNat.1 hc
    have hcode := hdigits c.toNat (by omega) hlow
    rwa [Char.ofNat_toNat] at hcode

theorem isNumeral_of_mem_toString {n : Int} {c : Char} (hc : c ∈ (toString n).toList) :
    isNumeral c = true := by
  have hdigits : ∀ (k : Nat) (d : Char), d ∈ k.repr.toList → isNumeral d = true := by
    intro k d hd
    rw [Nat.repr_eq_ofList_toDigits, String.toList_ofList] at hd
    rw [isNumeral, Nat.isDigit_of_mem_toDigits (by decide) (by decide) hd, Bool.or_true]
  rw [Int.toString_eq_repr, Int.repr_eq_if] at hc
  split at hc
  · exact hdigits _ _ hc
  · rw [String.toList_append, List.mem_append] at hc
    rcases hc with hminus | hc
    · rw [List.mem_singleton.1 hminus]
      rfl
    · exact hdigits _ _ hc

theorem toString_toList_ne_nil (n : Int) : (toString n).toList ≠ [] := by
  rw [Int.toString_eq_repr, Int.repr_eq_if]
  split
  · rw [Nat.repr_eq_ofList_toDigits, String.toList_ofList]
    exact Nat.toDigits_ne_nil
  · simp

theorem tokens_toString (n : Int) {rest : List Char} (hstop : StopsAt isNumeral rest) :
    tokens ((toString n).toList ++ rest) = .numeral (toString n) :: tokens rest := by
  have hnumerals : ∀ c ∈ (toString n).toList, isNumeral c = true := fun c =>
    isNumeral_of_mem_toString
  cases hchars : (toString n).toList with
  | nil => exact absurd hchars (toString_toList_ne_nil n)
  | cons c run =>
    rw [hchars] at hnumerals
    have hc := hnumerals c List.mem_cons_self
    have hrun : ∀ d ∈ run, isNumeral d = true := fun d hd => hnumerals d (List.mem_cons_of_mem _ hd)
    rw [List.cons_append, tokens, if_neg (by rw [startsWord_of_isNumeral hc]; decide), if_pos hc,
      Text.takeWhile_append_of_stop hrun hstop, Text.dropWhile_append_of_stop hrun hstop, ← hchars,
      String.ofList_toList]

theorem toInt?_toString (n : Int) : (toString n).toInt? = some n := by
  rw [Int.toString_eq_repr]
  exact Int.toInt?_repr n

theorem isName_toString (n : Int) : isName (toString n).toList = false := by
  cases hchars : (toString n).toList with
  | nil => rfl
  | cons c run =>
    have hc : isNumeral c = true := isNumeral_of_mem_toString (hchars ▸ List.mem_cons_self)
    rw [isName, startsWord_of_isNumeral hc, Bool.false_and]

/-! ### Marks and white space -/

/-- What is neither white space nor the start of another token. -/
def isMark (c : Char) : Bool :=
  !(startsWord c || isNumeral c || c == '"' || Text.isBlank c)

theorem tokens_mark {c : Char} (hc : isMark c = true) (rest : List Char) :
    tokens (c :: rest) = .mark c :: tokens rest := by
  simp only [isMark, Bool.not_eq_true', Bool.or_eq_false_iff] at hc
  obtain ⟨⟨⟨hword, hnumeral⟩, hquote⟩, hblank⟩ := hc
  rw [tokens]
  simp only [hword, hnumeral, hquote, hblank, Bool.false_eq_true, if_false]

/-- White space that starts no other token. -/
def isSpace (c : Char) : Bool :=
  Text.isBlank c && !(startsWord c || isNumeral c || c == '"')

theorem tokens_space {c : Char} (hc : isSpace c = true) (rest : List Char) :
    tokens (c :: rest) = tokens rest := by
  simp only [isSpace, Bool.and_eq_true, Bool.not_eq_true', Bool.or_eq_false_iff] at hc
  obtain ⟨hblank, ⟨hword, hnumeral⟩, hquote⟩ := hc
  rw [tokens]
  simp only [hword, hnumeral, hquote, hblank, Bool.false_eq_true, if_false, if_true]

/-! ### Texts put together -/

/-- No word and no number goes on into a text. -/
def Stops (rest : List Char) : Prop :=
  StopsAt continuesWord rest ∧ StopsAt isNumeral rest

/-- A text is read as some tokens wherever no word and no number goes on after it. -/
def Reads (text : String) (read : List Token) : Prop :=
  ∀ rest, Stops rest → tokens (text.toList ++ rest) = read ++ tokens rest

/-- A text is read as one mark and ends what stands before it. -/
structure Separates (text : String) (c : Char) : Prop where
  stops : ∀ rest, Stops (text.toList ++ rest)
  tokens_append : ∀ rest, tokens (text.toList ++ rest) = .mark c :: tokens rest

theorem stops_cons {c : Char} (hc : (continuesWord c || isNumeral c) = false) (rest : List Char) :
    Stops (c :: rest) := by
  obtain ⟨hword, hnumeral⟩ := Bool.or_eq_false_iff.1 hc
  constructor
  · intro d hd
    rwa [← Option.mem_some_iff.1 hd]
  · intro d hd
    rwa [← Option.mem_some_iff.1 hd]

theorem stops_nil : Stops [] := by
  constructor <;> intro d hd <;> cases hd

/-- Whether a mark with spaces around it ends the token before it. -/
def isMarkBetween (before : List Char) (c : Char) (after : List Char) : Bool :=
  before.all isSpace && after.all isSpace && isMark c &&
    !(before ++ [c]).head?.any fun d => continuesWord d || isNumeral d

theorem separates_of_mark {before : List Char} {c : Char} {after : List Char}
    (hbetween : isMarkBetween before c after = true) :
    Separates (String.ofList (before ++ c :: after)) c := by
  rw [isMarkBetween, Bool.and_eq_true, Bool.and_eq_true, Bool.and_eq_true, Bool.not_eq_true']
    at hbetween
  obtain ⟨⟨⟨hbefore, hafter⟩, hmark⟩, hstops⟩ := hbetween
  have hspaces : ∀ (spaces rest : List Char), spaces.all isSpace = true →
      tokens (spaces ++ rest) = tokens rest := by
    intro spaces rest hall
    induction spaces with
    | nil => rfl
    | cons d spaces ih =>
      rw [List.all_cons, Bool.and_eq_true] at hall
      rw [List.cons_append, tokens_space hall.1, ih hall.2]
  constructor
  · intro rest
    rw [String.toList_ofList]
    cases before with
    | nil => exact stops_cons hstops _
    | cons d before => exact stops_cons hstops _
  · intro rest
    rw [String.toList_ofList, List.append_assoc, hspaces _ _ hbefore, List.cons_append,
      tokens_mark hmark, hspaces _ _ hafter]

theorem reads_word {name : String} (hname : isName name.toList = true) : Reads name [.word name] :=
  fun _ hstops => tokens_word hname hstops.1

theorem reads_toString (n : Int) : Reads (toString n) [.numeral (toString n)] :=
  fun _ hstops => tokens_toString n hstops.2

theorem reads_stringLiteral (text : String) :
    Reads (Naming.stringLiteral text) [.literal text] :=
  fun rest _ => tokens_stringLiteral text rest

theorem Reads.append_separated {left right separator : String} {c : Char} {first second : List Token}
    (hleft : Reads left first) (hseparator : Separates separator c) (hright : Reads right second) :
    Reads (left ++ separator ++ right) (first ++ .mark c :: second) := by
  intro rest hstops
  calc tokens ((left ++ separator ++ right).toList ++ rest)
      = tokens (left.toList ++ (separator.toList ++ (right.toList ++ rest))) := by
        simp only [String.toList_append, List.append_assoc]
    _ = first ++ tokens (separator.toList ++ (right.toList ++ rest)) :=
        hleft _ (hseparator.stops _)
    _ = first ++ .mark c :: (second ++ tokens rest) := by
        rw [hseparator.tokens_append, hright rest hstops]
    _ = first ++ .mark c :: second ++ tokens rest := by simp

/-- Texts with a separator between them are read as their tokens with a mark between them. -/
theorem reads_intercalate {α : Type} {separator : String} {c : Char}
    (hseparator : Separates separator c) {textOf : α → String} {tokensOf : α → List Token}
    {parts : List α} (hparts : ∀ part ∈ parts, Reads (textOf part) (tokensOf part)) :
    Reads (String.intercalate separator (parts.map textOf))
      ([.mark c].intercalate (parts.map tokensOf)) := by
  induction parts with
  | nil => exact fun rest _ => rfl
  | cons part parts ih =>
    have hpart := hparts part List.mem_cons_self
    have hrest := ih fun other hother => hparts other (List.mem_cons_of_mem _ hother)
    cases parts with
    | nil => simpa [String.intercalate_singleton] using hpart
    | cons next parts =>
      simp only [List.map_cons] at hrest ⊢
      rw [String.intercalate_cons_cons, List.intercalate_cons_cons, List.append_assoc]
      exact hpart.append_separated hseparator hrest

/-! ### What stands between commas -/

def items (read : List Token) : List (List Token) :=
  if read.isEmpty then [] else read.splitOn (.mark ',')

theorem items_intercalate {parts : List (List Token)} (hcommas : ∀ part ∈ parts, .mark ',' ∉ part)
    (hempty : [] ∉ parts) : items ([.mark ','].intercalate parts) = parts := by
  unfold items
  cases parts with
  | nil => rfl
  | cons part parts =>
    rw [if_neg, List.splitOn_intercalate (.mark ',') hcommas (List.cons_ne_nil part parts)]
    have hpart : part ≠ [] := fun heq => hempty (heq ▸ List.mem_cons_self)
    cases parts with
    | nil => simpa using hpart
    | cons next parts => simp [List.intercalate_cons_cons, hpart]

end ScriptBridge.Script
