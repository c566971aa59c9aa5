import ScriptBridge.Proofs.TypeExpr.Derivability

/-!
# Spacing

Texts that lay out the same tokens. No two identifiers of a derivation stand side by side, so its tokens
are found again in each text that lays them out, whether or not blanks are put between them.
-/

namespace ScriptBridge.TypeExpr

open Text

/-- A text lays out some tokens one after another. Blanks may stand between tokens and within `[]`, and
`global::` before a token that starts with a letter or an underscore. -/
inductive LaysOut : List Token → List Char → Prop
  | done : LaysOut [] []
  | blank {c : Char} {tokens : List Token} {text : List Char} :
    isBlank c = true →
    LaysOut tokens text →
    LaysOut tokens (c :: text)
  | qualifier {token : Token} {tokens : List Token} {text : List Char} :
    token.StartsName →
    LaysOut (token :: tokens) text →
    LaysOut (token :: tokens) (globalMark ++ text)
  | brackets {blanks : List Char} {tokens : List Token} {text : List Char} :
    (∀ c ∈ blanks, isBlank c = true) →
    LaysOut tokens text →
    LaysOut (.brackets :: tokens) ('[' :: (blanks ++ ']' :: text))
  | token {token : Token} {tokens : List Token} {text : List Char} :
    LaysOut tokens text →
    LaysOut (token :: tokens) (token.text.toList ++ text)

/-! ### Marks -/

/-- The tokens of derivations that are no identifiers. -/
def marks : List Token :=
  [.symbol '.', .symbol '+', .symbol '<', .symbol ',', .symbol '>', .symbol '?', .brackets]

section Marks

variable {token : Token} {c : Char}

theorem isIdentifier_eq_false_of_mem_marks (hmark : token ∈ marks) : token.isIdentifier = false := by
  revert token
  decide +kernel

theorem wellFormed_of_mem_marks (hmark : token ∈ marks) : token.WellFormed := by
  simp only [marks, List.mem_cons, List.not_mem_nil, or_false] at hmark
  rcases hmark with rfl | rfl | rfl | rfl | rfl | rfl | rfl <;> simp only [Token.WellFormed] <;> decide

theorem not_startsName_of_mem_marks (hmark : token ∈ marks) : ¬ token.StartsName := by
  rw [← Token.isIdentifier_iff_startsName (wellFormed_of_mem_marks hmark),
    isIdentifier_eq_false_of_mem_marks hmark]
  exact Bool.false_ne_true

theorem head_text_of_mem_marks (hmark : token ∈ marks) :
    ∃ c rest, token.text.toList = c :: rest ∧ isWordPart c = false ∧ c ≠ ':' := by
  simp only [marks, List.mem_cons, List.not_mem_nil, or_false] at hmark
  rcases hmark with rfl | rfl | rfl | rfl | rfl | rfl | rfl <;>
    exact ⟨_, _, rfl, by decide, by decide⟩

theorem Separator.token_mem_marks (separator : Separator) : separator.token ∈ marks := by
  cases separator <;> decide

theorem Suffix.token_mem_marks (suffix : Suffix) : suffix.token ∈ marks := by
  cases suffix <;> decide

end Marks

/-! ### Spaced tokens -/

/-- Each token is a mark or starts with a letter or an underscore, and what follows the latter is a
mark. -/
inductive Spaced : List Token → Prop
  | done : Spaced []
  | mark {token : Token} {rest : List Token} : token ∈ marks → Spaced rest → Spaced (token :: rest)
  | name {token : Token} {rest : List Token} :
    token.StartsName →
    (∀ next ∈ rest.head?, next ∈ marks) →
    Spaced rest →
    Spaced (token :: rest)

section Spaced

variable {token : Token} {tokens : List Token} {text name : List Char}

theorem Spaced.tail (hspaced : Spaced (token :: tokens)) : Spaced tokens := by
  cases hspaced with
  | mark _ hrest => exact hrest
  | name _ _ hrest => exact hrest

theorem Spaced.ne_bracket (hspaced : Spaced (token :: tokens)) : token ≠ .symbol '[' := by
  rintro rfl
  cases hspaced with
  | mark hmark _ => exact absurd hmark (by decide)
  | name hname _ _ =>
    obtain ⟨c, rest, htext, hfirst⟩ := hname
    rw [Token.toList_text_symbol] at htext
    obtain rfl := (List.cons.inj htext).1
    rw [isAlphabetic_bracket] at hfirst
    exact absurd hfirst (by decide)

theorem Spaced.next_of_word {word : String} (hspaced : Spaced (.word word :: tokens)) :
    ∀ next ∈ tokens.head?, next ∈ marks := by
  cases hspaced with
  | mark hmark _ => cases isIdentifier_eq_false_of_mem_marks hmark
  | name _ hnext _ => exact hnext

/-- What is laid out before a mark starts with no part of an identifier, nor with a colon. -/
theorem LaysOut.head (hlayout : LaysOut tokens text) (hnext : ∀ next ∈ tokens.head?, next ∈ marks) :
    ∀ c ∈ text.head?, isWordPart c = false ∧ c ≠ ':' := by
  intro c hc
  cases hlayout with
  | done => cases hc
  | blank hblank _ =>
    cases hc
    refine ⟨?_, ?_⟩
    · refine eq_false_of_ne_true fun hpart => ?_
      rw [isBlank_eq_false_of_isWordPart hpart] at hblank
      cases hblank
    · rintro rfl
      exact absurd hblank (by decide)
  | qualifier hname _ => exact absurd hname (not_startsName_of_mem_marks (hnext _ rfl))
  | brackets _ _ =>
    cases hc
    decide
  | token _ =>
    obtain ⟨first, rest, htext, hfirst⟩ := head_text_of_mem_marks (hnext _ rfl)
    rw [htext] at hc
    cases hc
    exact hfirst

theorem not_globalMark_prefix (hname : ∀ c ∈ name, isWordPart c = true)
    (hnext : ∀ c ∈ text.head?, isWordPart c = false ∧ c ≠ ':') :
    ¬ globalMark <+: name ++ text := by
  rintro ⟨rest, hrest⟩
  have htext : text = ':' :: ':' :: rest := by
    rw [← dropWhile_append_of_stop hname fun c hc => (hnext c hc).1, ← hrest]
    rfl
  exact (hnext ':' (by rw [htext]; rfl)).2 rfl

/-- Spaced tokens are those of each text that lays them out. -/
theorem lexes_of_laysOut (hlayout : LaysOut tokens text) (hspaced : Spaced tokens)
    (hformed : ∀ token ∈ tokens, token.WellFormed) : Lexes text tokens := by
  induction hlayout with
  | done => exact .done
  | blank hblank _ ih => exact .blank hblank (ih hspaced hformed)
  | qualifier _ _ ih => exact .qualifier (ih hspaced hformed)
  | brackets hblanks _ ih =>
    exact .brackets hblanks (ih hspaced.tail (List.forall_mem_cons.1 hformed).2)
  | @token token tokens text hrest ih =>
    obtain ⟨htoken, hothers⟩ := List.forall_mem_cons.1 hformed
    have hlexes := ih hspaced.tail hothers
    cases token with
    | word name =>
      have hword : IsWord name.toList := htoken
      have hnext := hrest.head hspaced.next_of_word
      have hmark := not_globalMark_prefix (isWordPart_of_isWord hword) hnext
      have hwhole := Lexes.word hword (fun c hc => (hnext c hc).1) hmark hlexes
      rwa [String.ofList_toList] at hwhole
    | brackets => exact @Lexes.brackets [] _ _ (fun _ hc => nomatch hc) hlexes
    | symbol c =>
      rw [Token.toList_text_symbol]
      refine Lexes.symbol htoken.1 htoken.2 ?_ hlexes
      rintro ⟨blanks, tail, -, htext⟩
      obtain rfl := (List.cons.inj htext).1
      exact hspaced.ne_bracket rfl

end Spaced

/-! ### Derivations are spaced -/

/-- Spaced tokens that an identifier may stand before. -/
def Continues (rest : List Token) : Prop :=
  Spaced rest ∧ ∀ next ∈ rest.head?, next ∈ marks

section Continues

variable {token : Token} {rest : List Token}

theorem continues_nil : Continues [] := ⟨.done, fun _ hnext => nomatch hnext⟩

theorem continues_mark (hmark : token ∈ marks) (hrest : Spaced rest) : Continues (token :: rest) := by
  refine ⟨.mark hmark hrest, ?_⟩
  rintro next ⟨⟩
  exact hmark

theorem QualifiedName.spaced_tokens (qualified : QualifiedName) (hrest : Continues rest) :
    Spaced (qualified.tokens ++ rest) := by
  induction qualified with
  | single identifier => exact .name identifier.2 hrest.2 hrest.1
  | qualified identifier separator others ih =>
    have hothers := continues_mark separator.token_mem_marks ih
    exact .name identifier.2 hothers.2 hothers.1

theorem continues_suffixes (suffixes : List Suffix) (hrest : Continues rest) :
    Continues (suffixes.map Suffix.token ++ rest) := by
  induction suffixes with
  | nil => exact hrest
  | cons suffix suffixes ih => exact continues_mark suffix.token_mem_marks ih.1

namespace Derivation

theorem continues_closingTokens {args : List Derivation}
    (hargs : ∀ arg ∈ args, ∀ rest, Continues rest → Spaced (arg.tokens ++ rest))
    (hrest : Spaced rest) : Continues (closingTokens args ++ rest) := by
  induction args with
  | nil => exact continues_mark (by decide) hrest
  | cons next others ih =>
    have hothers := ih fun arg hmem => hargs arg (List.mem_cons_of_mem _ hmem)
    rw [closingTokens, List.cons_append, List.append_assoc]
    exact continues_mark (by decide) (hargs next List.mem_cons_self _ hothers)

theorem spaced_tokens (derivation : Derivation) (rest : List Token) (hrest : Continues rest) :
    Spaced (derivation.tokens ++ rest) := by
  induction derivation using induct generalizing rest with
  | hmk name args suffixes ih =>
    have hsuffixes := continues_suffixes suffixes hrest
    rw [tokens, List.append_assoc, List.append_assoc]
    refine name.spaced_tokens ?_
    cases args with
    | nil => exact hsuffixes
    | cons first others =>
      have hclosing := continues_closingTokens
        (fun arg hmem => ih arg (List.mem_cons_of_mem _ hmem)) hsuffixes.1
      rw [argumentTokens, List.cons_append, List.append_assoc]
      exact continues_mark (by decide) (ih first List.mem_cons_self _ hclosing)

section Texts

variable (derivation : Derivation) {text : String}
  (hformed : ∀ token ∈ derivation.tokens, token.WellFormed)
  (hlayout : LaysOut derivation.tokens text.toList)

include hformed hlayout

theorem lexes_of_laysOut : Lexes text.toList derivation.tokens := by
  have hspaced := derivation.spaced_tokens [] continues_nil
  rw [List.append_nil] at hspaced
  exact TypeExpr.lexes_of_laysOut hlayout hspaced hformed

/-- A text that lays out the tokens of a derivation is read as what the derivation stands for. -/
theorem parse_of_laysOut : parse text = .ok derivation.expr :=
  parse_of_lexes (derivation.lexes_of_laysOut hformed hlayout)

end Texts

end Derivation

end Continues

end ScriptBridge.TypeExpr
