import Mathlib
import ScriptBridge.Proofs.TypeExpr.Spacing

/-!
# Printing and reading again

What has been read is read again from its plain layout, and from each text that has the same tokens with
other blanks, with `global::` before identifiers or with the other separator.
-/

namespace ScriptBridge.TypeExpr

/-- The same token, or one separator for another. -/
def Respells (token token' : Token) : Prop :=
  token' = token ∨ token.isSeparator = true ∧ token'.isSeparator = true

/-- A text has the tokens of another, up to separators, laid out in some way. -/
def IsVariant (base text : String) : Prop :=
  ∃ tokens tokens', Lexes base.toList tokens ∧ List.Forall₂ Respells tokens tokens' ∧
    LaysOut tokens' text.toList

/-! ### Other separators -/

section Respelling

variable {token token' : Token} {rest tokens tokens' : List Token}

theorem Respells.eq_of_not_isSeparator (hrespells : Respells token token')
    (hplain : token.isSeparator = false) : token' = token := by
  refine hrespells.resolve_right fun hseparators => ?_
  rw [hplain] at hseparators
  cases hseparators.1

theorem isSeparator_eq_false_of_startsName (hname : token.StartsName) : token.isSeparator = false := by
  refine eq_false_of_ne_true fun hseparator => ?_
  obtain ⟨separator, rfl⟩ := Token.exists_separator hseparator
  exact not_startsName_of_mem_marks separator.token_mem_marks hname

theorem Suffix.isSeparator_token (suffix : Suffix) : suffix.token.isSeparator = false := by
  cases suffix <;> rfl

theorem Respells.wellFormed (hrespells : Respells token token') (hformed : token.WellFormed) :
    token'.WellFormed := by
  rcases hrespells with rfl | ⟨-, hseparator⟩
  · exact hformed
  · obtain ⟨separator, rfl⟩ := Token.exists_separator hseparator
    exact wellFormed_of_mem_marks separator.token_mem_marks

theorem wellFormed_of_respells (hrespells : List.Forall₂ Respells tokens tokens')
    (hformed : ∀ token ∈ tokens, token.WellFormed) : ∀ token ∈ tokens', token.WellFormed := by
  induction hrespells with
  | nil => exact hformed
  | cons hfirst _ ih =>
    obtain ⟨hhead, htail⟩ := List.forall_mem_cons.1 hformed
    exact List.forall_mem_cons.2 ⟨hfirst.wellFormed hhead, ih htail⟩

/-- Tokens with one that is no separator at their head keep it. -/
theorem exists_cons_of_respells (hplain : token.isSeparator = false)
    (hrespells : List.Forall₂ Respells (token :: rest) tokens') :
    ∃ rest', tokens' = token :: rest' ∧ List.Forall₂ Respells rest rest' := by
  cases hrespells with
  | cons hfirst hrest => exact ⟨_, by rw [hfirst.eq_of_not_isSeparator hplain], hrest⟩

theorem exists_cons_of_separator (separator : Separator)
    (hrespells : List.Forall₂ Respells (separator.token :: rest) tokens') :
    ∃ (separator' : Separator) (rest' : List Token), tokens' = separator'.token :: rest' ∧
      List.Forall₂ Respells rest rest' := by
  cases hrespells with
  | cons hfirst hrest =>
    rcases hfirst with rfl | ⟨-, hseparator⟩
    · exact ⟨separator, _, rfl, hrest⟩
    · obtain ⟨separator', rfl⟩ := Token.exists_separator hseparator
      exact ⟨separator', _, rfl, hrest⟩

theorem QualifiedName.exists_of_respells (qualified : QualifiedName)
    (hrespells : List.Forall₂ Respells (qualified.tokens ++ rest) tokens') :
    ∃ (qualified' : QualifiedName) (rest' : List Token), tokens' = qualified'.tokens ++ rest' ∧
      qualified'.text = qualified.text ∧ List.Forall₂ Respells rest rest' := by
  induction qualified generalizing tokens' with
  | single identifier =>
    obtain ⟨rest', rfl, hrest⟩ :=
      exists_cons_of_respells (isSeparator_eq_false_of_startsName identifier.2) hrespells
    exact ⟨.single identifier, rest', rfl, rfl, hrest⟩
  | qualified identifier separator others ih =>
    obtain ⟨_, rfl, hafter⟩ :=
      exists_cons_of_respells (isSeparator_eq_false_of_startsName identifier.2) hrespells
    obtain ⟨separator', _, rfl, hothers⟩ := exists_cons_of_separator separator hafter
    obtain ⟨others', rest', rfl, htext, hrest⟩ := ih hothers
    refine ⟨.qualified identifier separator' others', rest', rfl, ?_, hrest⟩
    rw [text, text, htext]

theorem exists_of_respells_suffixes (suffixes : List Suffix)
    (hrespells : List.Forall₂ Respells (suffixes.map Suffix.token ++ rest) tokens') :
    ∃ rest', tokens' = suffixes.map Suffix.token ++ rest' ∧ List.Forall₂ Respells rest rest' := by
  induction suffixes generalizing tokens' with
  | nil => exact ⟨tokens', rfl, hrespells⟩
  | cons suffix suffixes ih =>
    obtain ⟨_, rfl, hafter⟩ := exists_cons_of_respells suffix.isSeparator_token hrespells
    obtain ⟨rest', rfl, hrest⟩ := ih hafter
    exact ⟨rest', rfl, hrest⟩

namespace Derivation

theorem exists_of_respells_closing {args : List Derivation}
    (hargs : ∀ arg ∈ args, ∀ rest tokens', List.Forall₂ Respells (arg.tokens ++ rest) tokens' →
      ∃ (arg' : Derivation) (rest' : List Token), tokens' = arg'.tokens ++ rest' ∧
        arg'.expr = arg.expr ∧ List.Forall₂ Respells rest rest')
    (hrespells : List.Forall₂ Respells (closingTokens args ++ rest) tokens') :
    ∃ (args' : List Derivation) (rest' : List Token), tokens' = closingTokens args' ++ rest' ∧
      exprs args' = exprs args ∧ List.Forall₂ Respells rest rest' := by
  induction args generalizing tokens' with
  | nil =>
    obtain ⟨rest', rfl, hrest⟩ := exists_cons_of_respells (by decide) hrespells
    exact ⟨[], rest', rfl, rfl, hrest⟩
  | cons next others ih =>
    rw [closingTokens, List.cons_append, List.append_assoc] at hrespells
    obtain ⟨_, rfl, hnext⟩ := exists_cons_of_respells (by decide) hrespells
    obtain ⟨next', _, rfl, hexpr, hothers⟩ := hargs next List.mem_cons_self _ _ hnext
    obtain ⟨others', rest', rfl, hexprs, hrest⟩ :=
      ih (fun arg hmem => hargs arg (List.mem_cons_of_mem _ hmem)) hothers
    refine ⟨next' :: others', rest', ?_, ?_, hrest⟩
    · rw [closingTokens, List.cons_append, List.append_assoc]
    · rw [exprs, exprs, hexpr, hexprs]

/-- Tokens that are those of a derivation up to separators have a derivation that stands for the same. -/
theorem exists_of_respells (derivation : Derivation) (rest tokens' : List Token)
    (hrespells : List.Forall₂ Respells (derivation.tokens ++ rest) tokens') :
    ∃ (derivation' : Derivation) (rest' : List Token), tokens' = derivation'.tokens ++ rest' ∧
      derivation'.expr = derivation.expr ∧ List.Forall₂ Respells rest rest' := by
  induction derivation using induct generalizing rest tokens' with
  | hmk name args suffixes ih =>
    rw [tokens, List.append_assoc, List.append_assoc] at hrespells
    obtain ⟨name', _, rfl, htext, hafter⟩ := name.exists_of_respells hrespells
    cases args with
    | nil =>
      obtain ⟨rest', rfl, hrest⟩ := exists_of_respells_suffixes suffixes hafter
      refine ⟨mk name' [] suffixes, rest', ?_, ?_, hrest⟩
      · rw [tokens, List.append_assoc, List.append_assoc]
        rfl
      · rw [expr, expr, htext]
    | cons first others =>
      rw [argumentTokens, List.cons_append, List.append_assoc] at hafter
      obtain ⟨_, rfl, hargs⟩ := exists_cons_of_respells (by decide) hafter
      obtain ⟨first', _, rfl, hexpr, hclosing⟩ := ih first List.mem_cons_self _ _ hargs
      obtain ⟨others', _, rfl, hexprs, hsuffixes⟩ := exists_of_respells_closing
        (fun arg hmem => ih arg (List.mem_cons_of_mem _ hmem)) hclosing
      obtain ⟨rest', rfl, hrest⟩ := exists_of_respells_suffixes suffixes hsuffixes
      refine ⟨mk name' (first' :: others') suffixes, rest', ?_, ?_, hrest⟩
      · simp only [tokens, argumentTokens, List.append_assoc, List.cons_append]
      · rw [expr, expr, htext, exprs, exprs, hexpr, hexprs]

theorem exists_derivation_of_respells (derivation : Derivation)
    (hrespells : List.Forall₂ Respells derivation.tokens tokens') :
    ∃ derivation' : Derivation, derivation'.tokens = tokens' ∧ derivation'.expr = derivation.expr := by
  rw [← List.append_nil derivation.tokens] at hrespells
  obtain ⟨derivation', rest', rfl, hexpr, hrest⟩ := derivation.exists_of_respells [] _ hrespells
  cases hrest
  exact ⟨derivation', (List.append_nil _).symm, hexpr⟩

end Derivation

end Respelling

/-! ### The plain layout -/

/-- The token with `.` for either separator. -/
def Token.dotted (token : Token) : Token :=
  if token.isSeparator then .symbol '.' else token

section Layout

variable {token : Token} {rest : List Token} {text : List Char}

theorem Token.dotted_of_not_isSeparator (hplain : token.isSeparator = false) :
    token.dotted = token := by
  rw [dotted, hplain, if_neg Bool.false_ne_true]

theorem respells_dotted (token : Token) : Respells token token.dotted := by
  unfold Token.dotted
  split
  · rename_i hseparator
    exact .inr ⟨hseparator, rfl⟩
  · exact .inl rfl

theorem Separator.dotted_token (separator : Separator) : separator.token.dotted = .symbol '.' := by
  cases separator <;> rfl

theorem laysOut_symbol (c : Char) (hrest : LaysOut rest text) :
    LaysOut (.symbol c :: rest) (c :: text) := by
  have hlayout : LaysOut (.symbol c :: rest) ((Token.symbol c).text.toList ++ text) := .token hrest
  rwa [Token.toList_text_symbol] at hlayout

theorem QualifiedName.laysOut_dotted (qualified : QualifiedName) (hrest : LaysOut rest text) :
    LaysOut (qualified.tokens.map Token.dotted ++ rest) (qualified.text.toList ++ text) := by
  induction qualified with
  | single identifier =>
    have hidentifier := isSeparator_eq_false_of_startsName identifier.2
    rw [tokens, List.map_singleton, Token.dotted_of_not_isSeparator hidentifier]
    exact .token hrest
  | qualified identifier separator others ih =>
    have hidentifier := isSeparator_eq_false_of_startsName identifier.2
    have hothers := @LaysOut.token identifier.1 _ _ (laysOut_symbol '.' ih)
    simp only [tokens, QualifiedName.text, List.map_cons, separator.dotted_token,
      Token.dotted_of_not_isSeparator hidentifier, String.toList_append, List.append_assoc]
    exact hothers

theorem laysOut_suffixes (suffixes : List Suffix) (hrest : LaysOut rest text) :
    LaysOut ((suffixes.map Suffix.token).map Token.dotted ++ rest)
      ((String.join (suffixes.map Suffix.text)).toList ++ text) := by
  induction suffixes with
  | nil =>
    simp only [List.map_nil, String.join_nil]
    exact hrest
  | cons suffix suffixes ih =>
    have htext : suffix.text = suffix.token.text := by cases suffix <;> rfl
    rw [List.map_cons, List.map_cons, List.map_cons, String.join_cons, String.toList_append, htext,
      List.append_assoc, Token.dotted_of_not_isSeparator suffix.isSeparator_token]
    exact .token ih

namespace Derivation

theorem laysOut_closing {args : List Derivation}
    (hargs : ∀ arg ∈ args, ∀ rest text, LaysOut rest text →
      LaysOut (arg.tokens.map Token.dotted ++ rest) (arg.expr.text.toList ++ text))
    (hrest : LaysOut rest text) :
    LaysOut ((closingTokens args).map Token.dotted ++ rest)
      ((moreArguments (exprs args)).toList ++ '>' :: text) := by
  induction args with
  | nil => exact laysOut_symbol '>' hrest
  | cons next others ih =>
    have hothers := ih fun arg hmem => hargs arg (List.mem_cons_of_mem _ hmem)
    have hnext := hargs next List.mem_cons_self _ _ hothers
    have hcomma := laysOut_symbol ',' (.blank (by decide : Text.isBlank ' ' = true) hnext)
    simp only [closingTokens, exprs, moreArguments, List.map_cons, List.map_append,
      List.cons_append, String.toList_append, List.append_assoc]
    exact hcomma

/-- The plain layout of what a derivation stands for lays out its tokens, with `.` for each
separator. -/
theorem laysOut_dotted (derivation : Derivation) (rest : List Token) (text : List Char)
    (hrest : LaysOut rest text) :
    LaysOut (derivation.tokens.map Token.dotted ++ rest) (derivation.expr.text.toList ++ text) := by
  induction derivation using induct generalizing rest text with
  | hmk name args suffixes ih =>
    have hsuffixes := laysOut_suffixes suffixes hrest
    cases args with
    | nil =>
      have hname := name.laysOut_dotted hsuffixes
      simp only [tokens, argumentTokens, expr, exprs, TypeExpr.text, argumentText, List.nil_append,
        List.map_append, String.toList_append, List.append_assoc]
      exact hname
    | cons first others =>
      have hclosing := laysOut_closing (fun arg hmem => ih arg (List.mem_cons_of_mem _ hmem)) hsuffixes
      have hargs := laysOut_symbol '<' (ih first List.mem_cons_self _ _ hclosing)
      have hname := name.laysOut_dotted hargs
      simp only [tokens, argumentTokens, expr, exprs, TypeExpr.text, argumentText, List.map_cons,
        List.map_append, String.toList_append, List.append_assoc, List.cons_append]
      exact hname

end Derivation

end Layout

/-! ### Reading again -/

/-- What has been read is read again from its plain layout and from each variant of that. -/
theorem parse_of_isVariant {source : String} {expr : TypeExpr} (hparse : parse source = .ok expr) :
    parse expr.text = .ok expr ∧ ∀ text, IsVariant expr.text text → parse text = .ok expr := by
  have hlexes := lexes_tokens source.toList
  obtain ⟨derivation, htokens, rfl⟩ := (ofTokens_eq_ok_iff (recognised_of_lexes hlexes)).1 hparse
  have hdotted : List.Forall₂ Respells derivation.tokens (derivation.tokens.map Token.dotted) := by
    rw [List.forall₂_map_right_iff, List.forall₂_same]
    exact fun token _ => respells_dotted token
  obtain ⟨plain, hplain, hexpr⟩ := derivation.exists_derivation_of_respells hdotted
  have hformed : ∀ token ∈ plain.tokens, token.WellFormed := by
    rw [hplain]
    exact wellFormed_of_respells hdotted (htokens ▸ wellFormed_of_lexes hlexes)
  have hlayout : LaysOut plain.tokens derivation.expr.text.toList := by
    have hdone := derivation.laysOut_dotted [] [] .done
    rwa [List.append_nil, List.append_nil, ← hplain] at hdone
  rw [← hexpr] at hlayout ⊢
  refine ⟨plain.parse_of_laysOut hformed hlayout, ?_⟩
  rintro text ⟨tokens, tokens', hbase, hrespells, hvariant⟩
  obtain rfl := (tokens_of_lexes hbase).symm.trans
    (tokens_of_lexes (plain.lexes_of_laysOut hformed hlayout))
  obtain ⟨derivation', rfl, hexpr'⟩ := plain.exists_derivation_of_respells hrespells
  rw [← hexpr']
  exact derivation'.parse_of_laysOut (wellFormed_of_respells hrespells hformed) hvariant

/-- `A.global<é[]?>`: an identifier like the mark, and one that is no ASCII letter. -/
def globalExpr : TypeExpr :=
  .mk "A.global" [.mk "é" [] [.array, .nullable]] []

theorem lexes_globalExpr : Lexes globalExpr.text.toList
    [.word "A", .symbol '.', .word "global", .symbol '<', .symbol 'é', .brackets, .symbol '?',
      .symbol '>'] := by
  have htext : globalExpr.text.toList =
      ['A', '.', 'g', 'l', 'o', 'b', 'a', 'l', '<', 'é', '[', ']', '?', '>'] := by rfl
  rw [lexes_iff, htext]
  cbv

theorem isVariant_globalExpr : IsVariant globalExpr.text "global::A + global::global<é [ ] ?>" := by
  have htext : "global::A + global::global<é [ ] ?>".toList =
      globalMark ++ ("A".toList ++ (' ' :: '+' :: ' ' :: (globalMark ++ ("global".toList ++
        ('<' :: 'é' :: ' ' :: '[' :: ([' '] ++ ']' :: ' ' :: '?' :: '>' :: [])))))) := by rfl
  have hA : (Token.word "A").StartsName := ⟨'A', [], rfl, .inl (by decide +kernel)⟩
  have hglobal : (Token.word "global").StartsName :=
    ⟨'g', ['l', 'o', 'b', 'a', 'l'], rfl, .inl (by decide +kernel)⟩
  have hblank : Text.isBlank ' ' = true := by decide
  have hend := LaysOut.blank hblank (laysOut_symbol '?' (laysOut_symbol '>' .done))
  have hsuffixes := LaysOut.blank hblank (.brackets (List.forall_mem_singleton.2 hblank) hend)
  have hname := LaysOut.qualifier hglobal
    (.token (laysOut_symbol '<' (laysOut_symbol 'é' hsuffixes)))
  have hvariant := LaysOut.qualifier hA
    (.token (.blank hblank (laysOut_symbol '+' (.blank hblank hname))))
  refine ⟨_, .word "A" :: .symbol '+' :: _, lexes_globalExpr, ?_, htext ▸ hvariant⟩
  exact .cons (.inl rfl) (.cons (.inr ⟨rfl, rfl⟩) (List.forall₂_same.2 fun _ _ => .inl rfl))

set_option maxRecDepth 4000 in
theorem parse_globalExpr :
    parse "A+global<é[ ]?>" = .ok globalExpr ∧
      IsVariant globalExpr.text "global::A + global::global<é [ ] ?>" ∧
      parse "global::A + global::global<é [ ] ?>" = .ok globalExpr :=
  have hparse : parse "A+global<é[ ]?>" = .ok globalExpr := by cbv
  ⟨hparse, isVariant_globalExpr, (parse_of_isVariant hparse).2 _ isVariant_globalExpr⟩

end ScriptBridge.TypeExpr
