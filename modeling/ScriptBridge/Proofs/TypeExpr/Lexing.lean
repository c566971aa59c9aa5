import ScriptBridge.Proofs.Text.Runs
import ScriptBridge.TypeExpr.Token

/-!
# Lexing

How a text is cut into tokens, as a relation that says nothing of how they are found. Each text is cut in
exactly one way.
-/

namespace ScriptBridge.TypeExpr

open Text

/-- `global::`, which may stand before any token. -/
def globalMark : List Char := ['g', 'l', 'o', 'b', 'a', 'l', ':', ':']

/-- An ASCII identifier. -/
def IsWord (name : List Char) : Prop :=
  ∃ c rest, name = c :: rest ∧ isWordStart c = true ∧ ∀ other ∈ rest, isWordPart other = true

/-- Whether a text starts with `[`, blanks and `]`. -/
def OpensBrackets (text : List Char) : Prop :=
  ∃ blanks rest, (∀ c ∈ blanks, isBlank c = true) ∧ text = '[' :: (blanks ++ ']' :: rest)

/-- Some tokens are those of a text. Blanks and `global::` are skipped; an identifier is as long as
possible, and does not begin with `global::`; `[` and `]` are one token if only blanks stand between
them; any other character is a token of its own. -/
inductive Lexes : List Char → List Token → Prop
  | done : Lexes [] []
  | blank {c : Char} {rest : List Char} {tokens : List Token} :
    isBlank c = true →
    Lexes rest tokens →
    Lexes (c :: rest) tokens
  | qualifier {rest : List Char} {tokens : List Token} :
    Lexes rest tokens →
    Lexes (globalMark ++ rest) tokens
  | word {name rest : List Char} {tokens : List Token} :
    IsWord name →
    (∀ c ∈ rest.head?, isWordPart c = false) →
    ¬ globalMark <+: name ++ rest →
    Lexes rest tokens →
    Lexes (name ++ rest) (.word (String.ofList name) :: tokens)
  | brackets {blanks rest : List Char} {tokens : List Token} :
    (∀ c ∈ blanks, isBlank c = true) →
    Lexes rest tokens →
    Lexes ('[' :: (blanks ++ ']' :: rest)) (.brackets :: tokens)
  | symbol {c : Char} {rest : List Char} {tokens : List Token} :
    isBlank c = false →
    isWordStart c = false →
    ¬ OpensBrackets (c :: rest) →
    Lexes rest tokens →
    Lexes (c :: rest) (.symbol c :: tokens)

/-! ### Characters -/

section Characters

variable {c : Char} {p : Char → Bool} {text inner rest : List Char}

theorem isWordPart_of_isWordStart (hstart : isWordStart c = true) : isWordPart c = true := by
  rw [isWordStart, Bool.or_eq_true] at hstart
  rw [isWordPart, Char.isAlphanum, Bool.or_eq_true, Bool.or_eq_true]
  exact hstart.imp_left .inl

theorem toNat_of_isAlpha (halpha : c.isAlpha = true) :
    65 ≤ c.toNat ∧ c.toNat ≤ 90 ∨ 97 ≤ c.toNat ∧ c.toNat ≤ 122 := by
  rcases Bool.or_eq_true_iff.1 halpha with hupper | hlower
  · exact .inl (of_decide_eq_true hupper)
  · obtain ⟨hfirst, hlast⟩ := Bool.and_eq_true_iff.1 hlower
    exact .inr ⟨of_decide_eq_true hfirst, of_decide_eq_true hlast⟩

theorem toNat_of_isWordPart (hpart : isWordPart c = true) :
    48 ≤ c.toNat ∧ c.toNat ≤ 57 ∨ 65 ≤ c.toNat ∧ c.toNat ≤ 90 ∨ 97 ≤ c.toNat ∧ c.toNat ≤ 122 ∨
      c.toNat = 95 := by
  rcases Bool.or_eq_true_iff.1 hpart with halphanum | hunderscore
  · rcases Bool.or_eq_true_iff.1 halphanum with halpha | hdigit
    · rcases toNat_of_isAlpha halpha with hupper | hlower
      · exact .inr (.inl hupper)
      · exact .inr (.inr (.inl hlower))
    · exact .inl (Char.isDigit_iff_toNat.1 hdigit)
  · rw [beq_iff_eq.1 hunderscore]
    exact .inr (.inr (.inr rfl))

theorem isBlank_eq_false_of_isWordPart (hpart : isWordPart c = true) : isBlank c = false := by
  have hcode := toNat_of_isWordPart hpart
  simp only [isBlank, CodeRun.covers, blankRuns, CodeRun.contains, List.any_cons, List.any_nil]
  simp
  omega

theorem isWordPart_of_isWord {name : List Char} (hword : IsWord name) :
    ∀ c ∈ name, isWordPart c = true := by
  obtain ⟨c, others, rfl, hstart, hothers⟩ := hword
  exact List.forall_mem_cons.2 ⟨isWordPart_of_isWordStart hstart, hothers⟩

theorem afterGlobal?_eq_some_iff : afterGlobal? text = some rest ↔ text = globalMark ++ rest := by
  constructor
  · intro hfound
    unfold afterGlobal? at hfound
    split at hfound
    · cases hfound
      rfl
    · cases hfound
  · rintro rfl
    rfl

theorem afterGlobal?_eq_none_iff : afterGlobal? text = none ↔ ¬ globalMark <+: text := by
  rw [Option.eq_none_iff_forall_ne_some, List.IsPrefix, not_exists]
  exact forall_congr' fun rest => not_congr (afterGlobal?_eq_some_iff.trans eq_comm)

theorem opensBrackets_iff :
    OpensBrackets ('[' :: rest) ↔ ∃ tail, rest.dropWhile isBlank = ']' :: tail := by
  constructor
  · rintro ⟨blanks, tail, hblanks, htext⟩
    rw [(List.cons.inj htext).2]
    refine ⟨tail, dropWhile_append_of_stop hblanks ?_⟩
    rintro c ⟨⟩
    decide
  · rintro ⟨tail, htail⟩
    refine ⟨rest.takeWhile isBlank, tail, fun c hc => ?_, ?_⟩
    · exact List.all_eq_true.1 (List.all_takeWhile) c hc
    · rw [← htail, List.takeWhile_append_dropWhile]

end Characters

/-! ### One token after another -/

section Tokens

variable {c : Char} {name blanks rest : List Char}

theorem tokens_nil : tokens [] = [] := by
  rw [tokens]

theorem tokens_cons (c : Char) (rest : List Char) :
    tokens (c :: rest) =
      if isBlank c then tokens rest
      else
        match afterGlobal? (c :: rest) with
        | some tail => tokens tail
        | none =>
          if isWordStart c then
            .word (String.ofList (c :: rest.takeWhile isWordPart)) ::
              tokens (rest.dropWhile isWordPart)
          else if c == '[' then
            match rest.dropWhile isBlank with
            | ']' :: tail => .brackets :: tokens tail
            | _ => .symbol c :: tokens rest
          else .symbol c :: tokens rest := by
  rw [tokens]
  generalize afterGlobal? (c :: rest) = found
  cases found with
  | some tail => rfl
  | none =>
    dsimp only
    generalize rest.dropWhile isBlank = tail
    congr 3
    split
    · rfl
    · rename_i hopen
      split
      · exact (hopen _ rfl).elim
      · rfl

theorem tokens_blank (hblank : isBlank c = true) : tokens (c :: rest) = tokens rest := by
  rw [tokens_cons, if_pos hblank]

theorem tokens_globalMark : tokens (globalMark ++ rest) = tokens rest := by
  have hfound := afterGlobal?_eq_some_iff.2 (rfl : globalMark ++ rest = _)
  have hmark : globalMark ++ rest = 'g' :: (globalMark.tail ++ rest) := rfl
  rw [hmark] at hfound ⊢
  rw [tokens_cons, if_neg (by decide), hfound]

theorem tokens_word (hword : IsWord name) (hend : ∀ c ∈ rest.head?, isWordPart c = false)
    (hmark : ¬ globalMark <+: name ++ rest) :
    tokens (name ++ rest) = .word (String.ofList name) :: tokens rest := by
  obtain ⟨c, others, rfl, hstart, hothers⟩ := hword
  have hnone := afterGlobal?_eq_none_iff.2 hmark
  rw [List.cons_append] at hnone ⊢
  have hblank := isBlank_eq_false_of_isWordPart (isWordPart_of_isWordStart hstart)
  rw [tokens_cons, hblank, if_neg Bool.false_ne_true, hnone]
  simp only [hstart, if_true, takeWhile_append_of_stop hothers hend,
    dropWhile_append_of_stop hothers hend]

theorem tokens_brackets (hblanks : ∀ c ∈ blanks, isBlank c = true) :
    tokens ('[' :: (blanks ++ ']' :: rest)) = .brackets :: tokens rest := by
  have hclosed : (blanks ++ ']' :: rest).dropWhile isBlank = ']' :: rest := by
    refine dropWhile_append_of_stop hblanks ?_
    rintro c ⟨⟩
    decide
  rw [tokens_cons, if_neg (by decide)]
  simp only [afterGlobal?, hclosed]
  rfl

theorem tokens_symbol (hblank : isBlank c = false) (hstart : isWordStart c = false)
    (hopen : ¬ OpensBrackets (c :: rest)) : tokens (c :: rest) = .symbol c :: tokens rest := by
  have hnone : afterGlobal? (c :: rest) = none := by
    refine afterGlobal?_eq_none_iff.2 ?_
    rintro ⟨tail, htail⟩
    cases htail
    exact absurd hstart (by decide)
  rw [tokens_cons, hblank, if_neg Bool.false_ne_true, hnone]
  simp only [hstart, Bool.false_eq_true, if_false]
  split
  · rename_i hbracket
    obtain rfl := beq_iff_eq.1 hbracket
    split
    · rename_i tail hclosed
      exact absurd (opensBrackets_iff.2 ⟨tail, hclosed⟩) hopen
    · rfl
  · rfl

end Tokens

/-! ### The tokens of a text -/

theorem tokens_of_lexes {text : List Char} {found : List Token} (hlexes : Lexes text found) :
    tokens text = found := by
  induction hlexes with
  | done => exact tokens_nil
  | blank hblank _ ih => rw [tokens_blank hblank, ih]
  | qualifier _ ih => rw [tokens_globalMark, ih]
  | word hword hend hmark _ ih => rw [tokens_word hword hend hmark, ih]
  | brackets hblanks _ ih => rw [tokens_brackets hblanks, ih]
  | symbol hblank hstart hopen _ ih => rw [tokens_symbol hblank hstart hopen, ih]

theorem lexes_tokens_symbol {c : Char} {rest : List Char} (hblank : isBlank c = false)
    (hstart : isWordStart c = false) (hopen : ¬ OpensBrackets (c :: rest))
    (hrest : Lexes rest (tokens rest)) : Lexes (c :: rest) (tokens (c :: rest)) := by
  rw [tokens_symbol hblank hstart hopen]
  exact .symbol hblank hstart hopen hrest

/-- Each text can be cut into tokens. -/
theorem lexes_tokens (text : List Char) : Lexes text (tokens text) := by
  induction text using tokens.induct with
  | case1 =>
    rw [tokens_nil]
    exact .done
  | case2 c rest hblank ih =>
    rw [tokens_blank hblank]
    exact .blank hblank ih
  | case3 c rest _ tail hmark ih =>
    rw [afterGlobal?_eq_some_iff.1 hmark, tokens_globalMark]
    exact .qualifier ih
  | case4 c rest _ hnone hstart ih =>
    have hword : IsWord (c :: rest.takeWhile isWordPart) :=
      ⟨c, _, rfl, hstart, List.all_eq_true.1 List.all_takeWhile⟩
    have htext : c :: rest = (c :: rest.takeWhile isWordPart) ++ rest.dropWhile isWordPart := by
      rw [List.cons_append, List.takeWhile_append_dropWhile]
    have hmark := afterGlobal?_eq_none_iff.1 hnone
    rw [htext] at hmark ⊢
    rw [tokens_word hword (stop_dropWhile rest) hmark]
    exact .word hword (stop_dropWhile rest) hmark ih
  | case5 c rest _ _ _ hbracket tail hclosed ih =>
    obtain rfl := beq_iff_eq.1 hbracket
    have hblanks : ∀ c ∈ rest.takeWhile isBlank, isBlank c = true :=
      List.all_eq_true.1 List.all_takeWhile
    have htext : rest = rest.takeWhile isBlank ++ ']' :: tail := by
      rw [← hclosed, List.takeWhile_append_dropWhile]
    rw [htext, tokens_brackets hblanks]
    exact .brackets hblanks ih
  | case6 c rest hblank _ hstart hbracket hopen ih =>
    obtain rfl := beq_iff_eq.1 hbracket
    refine lexes_tokens_symbol (eq_false_of_ne_true hblank) (eq_false_of_ne_true hstart) ?_ ih
    intro hopens
    obtain ⟨tail, hclosed⟩ := opensBrackets_iff.1 hopens
    exact hopen tail hclosed
  | case7 c rest hblank _ hstart hbracket ih =>
    refine lexes_tokens_symbol (eq_false_of_ne_true hblank) (eq_false_of_ne_true hstart) ?_ ih
    rintro ⟨blanks, tail, -, htext⟩
    cases htext
    exact hbracket rfl

theorem lexes_iff {text : List Char} {found : List Token} :
    Lexes text found ↔ tokens text = found :=
  ⟨tokens_of_lexes, fun htokens => htokens ▸ lexes_tokens text⟩

/-- What a token of a text is. -/
def Token.WellFormed : Token → Prop
  | .word name => IsWord name.toList
  | .brackets => True
  | .symbol c => isBlank c = false ∧ isWordStart c = false

theorem wellFormed_of_lexes {text : List Char} {found : List Token} (hlexes : Lexes text found) :
    ∀ token ∈ found, token.WellFormed := by
  induction hlexes with
  | done => exact fun _ hmem => nomatch hmem
  | blank _ _ ih => exact ih
  | qualifier _ ih => exact ih
  | word hword _ _ _ ih =>
    refine List.forall_mem_cons.2 ⟨?_, ih⟩
    rwa [Token.WellFormed, String.toList_ofList]
  | brackets _ _ ih => exact List.forall_mem_cons.2 ⟨trivial, ih⟩
  | symbol hblank hstart _ _ ih => exact List.forall_mem_cons.2 ⟨⟨hblank, hstart⟩, ih⟩

end ScriptBridge.TypeExpr
