import ScriptBridge.Proofs.TypeExpr.Grammar
import ScriptBridge.TypeRef.Registry

/-!
# Derivable texts

A text is read if and only if its tokens have a derivation. They have at most one.
-/

namespace ScriptBridge.TypeExpr

open Text

/-! ### A derivation is known by its tokens -/

section Unambiguity

variable {rest rest' : List Token}

theorem Separator.isSeparator_token (separator : Separator) : separator.token.isSeparator = true := by
  cases separator <;> rfl

theorem Separator.token_injective {a b : Separator} (htoken : a.token = b.token) : a = b := by
  cases a <;> cases b <;> first | rfl | cases htoken

theorem QualifiedName.eq_of_tokens_append {qualified qualified' : QualifiedName}
    (hrest : ∀ next ∈ rest.head?, next.isSeparator = false)
    (hrest' : ∀ next ∈ rest'.head?, next.isSeparator = false)
    (htokens : qualified.tokens ++ rest = qualified'.tokens ++ rest') :
    qualified = qualified' ∧ rest = rest' := by
  induction qualified generalizing qualified' with
  | single identifier =>
    cases qualified' with
    | single identifier' =>
      obtain ⟨hidentifier, hrest⟩ := List.cons.inj htokens
      exact ⟨congrArg single (Subtype.ext hidentifier), hrest⟩
    | qualified identifier' separator' others' =>
      have htail : rest = separator'.token :: (others'.tokens ++ rest') := (List.cons.inj htokens).2
      have hseparator := hrest separator'.token (by rw [htail]; rfl)
      rw [separator'.isSeparator_token] at hseparator
      cases hseparator
  | qualified identifier separator others ih =>
    cases qualified' with
    | single identifier' =>
      have htail : separator.token :: (others.tokens ++ rest) = rest' := (List.cons.inj htokens).2
      have hseparator := hrest' separator.token (by rw [← htail]; rfl)
      rw [separator.isSeparator_token] at hseparator
      cases hseparator
    | qualified identifier' separator' others' =>
      obtain ⟨hidentifier, htail⟩ := List.cons.inj htokens
      obtain ⟨hseparator, hothers⟩ := List.cons.inj htail
      obtain ⟨rfl, rfl⟩ := ih hothers
      rw [Subtype.ext hidentifier, Separator.token_injective hseparator]
      exact ⟨rfl, rfl⟩

theorem eq_of_suffixes_append {suffixes suffixes' : List Suffix}
    (hrest : ∀ next ∈ rest.head?, next.suffix? = none)
    (hrest' : ∀ next ∈ rest'.head?, next.suffix? = none)
    (htokens : suffixes.map Suffix.token ++ rest = suffixes'.map Suffix.token ++ rest') :
    suffixes = suffixes' ∧ rest = rest' := by
  have hread := parseSuffixes_append suffixes hrest
  rw [htokens] at hread
  obtain ⟨_, hread⟩ := hread
  obtain ⟨_, hread'⟩ := parseSuffixes_append suffixes' hrest'
  rw [hread] at hread'
  cases hread'
  exact ⟨rfl, rfl⟩

namespace Derivation

theorem eq_of_closingTokens_append {first first' : Derivation} {others others' : List Derivation}
    (hunique : ∀ arg ∈ first :: others, ∀ arg' rest rest', Ends rest → Ends rest' →
      arg.tokens ++ rest = arg'.tokens ++ rest' → arg = arg' ∧ rest = rest')
    (htokens : first.tokens ++ (closingTokens others ++ rest) =
      first'.tokens ++ (closingTokens others' ++ rest')) :
    first :: others = first' :: others' ∧ rest = rest' := by
  induction others generalizing first first' others' with
  | nil =>
    obtain ⟨rfl, hclosing⟩ := hunique first List.mem_cons_self _ _ _ (ends_closingTokens [])
      (ends_closingTokens others') htokens
    cases others' with
    | nil => exact ⟨rfl, (List.cons.inj hclosing).2⟩
    | cons next' others' => cases (List.cons.inj hclosing).1
  | cons next others ih =>
    obtain ⟨rfl, hclosing⟩ := hunique first List.mem_cons_self _ _ _
      (ends_closingTokens (next :: others)) (ends_closingTokens others') htokens
    cases others' with
    | nil => cases (List.cons.inj hclosing).1
    | cons next' others' =>
      simp only [closingTokens, List.cons_append, List.append_assoc] at hclosing
      obtain ⟨hothers, hrest⟩ := ih (fun arg hmem => hunique arg (List.mem_cons_of_mem _ hmem))
        (List.cons.inj hclosing).2
      rw [hothers]
      exact ⟨rfl, hrest⟩

theorem eq_of_tokens_append (derivation derivation' : Derivation) (rest rest' : List Token)
    (hends : Ends rest) (hends' : Ends rest')
    (htokens : derivation.tokens ++ rest = derivation'.tokens ++ rest') :
    derivation = derivation' ∧ rest = rest' := by
  induction derivation using induct generalizing derivation' rest rest' with
  | hmk name args suffixes ih =>
    obtain ⟨name', args', suffixes'⟩ := derivation'
    simp only [tokens, List.append_assoc] at htokens
    obtain ⟨rfl, hafter⟩ := QualifiedName.eq_of_tokens_append (head_after_name args suffixes hends)
      (head_after_name args' suffixes' hends') htokens
    have hsuffixes := hends.suffix?_eq_none
    have hsuffixes' := hends'.suffix?_eq_none
    cases args with
    | nil =>
      cases args' with
      | nil =>
        obtain ⟨rfl, rfl⟩ := eq_of_suffixes_append hsuffixes hsuffixes' hafter
        exact ⟨rfl, rfl⟩
      | cons first' others' =>
        refine absurd rfl (head_after_arguments suffixes hends (.symbol '<') ?_)
        exact (congrArg List.head? hafter).trans rfl
    | cons first others =>
      cases args' with
      | nil =>
        refine absurd rfl (head_after_arguments suffixes' hends' (.symbol '<') ?_)
        exact (congrArg List.head? hafter.symm).trans rfl
      | cons first' others' =>
        simp only [argumentTokens, List.cons_append, List.append_assoc] at hafter
        obtain ⟨hargs, hrest⟩ := eq_of_closingTokens_append ih (List.cons.inj hafter).2
        obtain ⟨rfl, rfl⟩ := eq_of_suffixes_append hsuffixes hsuffixes' hrest
        rw [hargs]
        exact ⟨rfl, rfl⟩

/-- Two derivations of the same tokens are the same. -/
theorem tokens_injective {derivation derivation' : Derivation}
    (htokens : derivation.tokens = derivation'.tokens) : derivation = derivation' :=
  (eq_of_tokens_append derivation derivation' [] [] ends_nil ends_nil (by rw [htokens])).1

end Derivation

end Unambiguity

/-! ### Identifiers -/

theorem isAlphabetic_of_isWordStart {c : Char} (hstart : isWordStart c = true) :
    isAlphabetic c = true ∨ c = '_' := by
  have hcover : ∀ run ∈ alphabeticRuns, run.contains c.toNat = true → isAlphabetic c = true :=
    fun run hrun hcontains => List.any_eq_true.2 ⟨run, hrun, hcontains⟩
  rcases Bool.or_eq_true_iff.1 hstart with halpha | hunderscore
  · rcases toNat_of_isAlpha halpha with hupper | hlower
    · refine .inl (hcover ⟨65, 90, 1⟩ List.mem_cons_self ?_)
      simp [CodeRun.contains, hupper, Nat.mod_one]
    · refine .inl (hcover ⟨97, 122, 1⟩ (List.mem_cons_of_mem _ List.mem_cons_self) ?_)
      simp [CodeRun.contains, hlower, Nat.mod_one]
  · exact .inr (beq_iff_eq.1 hunderscore)

theorem isAlphabetic_bracket : isAlphabetic '[' = false := by decide +kernel

theorem Token.toList_text_symbol (c : Char) : (Token.symbol c).text.toList = [c] :=
  String.toList_singleton c

theorem Token.isIdentifier_iff_startsName {token : Token} (hformed : token.WellFormed) :
    token.isIdentifier = true ↔ token.StartsName := by
  cases token with
  | word name =>
    obtain ⟨c, rest, hname, hstart, -⟩ := hformed
    exact iff_of_true rfl ⟨c, rest, hname, isAlphabetic_of_isWordStart hstart⟩
  | brackets =>
    refine iff_of_false Bool.false_ne_true ?_
    rintro ⟨c, rest, htext, hname⟩
    have hbracket : '[' = c := (List.cons.inj htext).1
    rw [← hbracket, isAlphabetic_bracket] at hname
    exact absurd hname (by decide)
  | symbol c =>
    constructor
    · exact fun hidentifier => ⟨c, [], toList_text_symbol c, .inl hidentifier⟩
    · rintro ⟨first, rest, htext, hname⟩
      rw [toList_text_symbol] at htext
      obtain rfl := (List.cons.inj htext).1
      refine hname.resolve_right ?_
      rintro rfl
      cases hformed.2

theorem recognised_of_lexes {text : List Char} {found : List Token} (hlexes : Lexes text found) :
    Recognised found := fun token hmem =>
  Token.isIdentifier_iff_startsName (wellFormed_of_lexes hlexes token hmem)

/-! ### Derivability -/

theorem ofTokens_eq_ok_iff {tokens : List Token} {expr : TypeExpr} (hall : Recognised tokens) :
    ofTokens tokens = .ok expr ↔
      ∃ derivation : Derivation, derivation.tokens = tokens ∧ derivation.expr = expr := by
  constructor
  · intro hread
    unfold ofTokens at hread
    split at hread
    · cases hread
    · rename_i shorter htype
      cases hread
      obtain ⟨derivation, htokens, hexpr⟩ := Derivation.exists_of_parse.1 tokens hall _ _ _ htype
      exact ⟨derivation, (List.append_nil _).symm.trans htokens, hexpr⟩
    · cases hread
  · rintro ⟨derivation, rfl, rfl⟩
    have htype := derivation.parseType_tokens [] hall ends_nil
    rw [List.append_nil] at htype
    obtain ⟨_, htype⟩ := htype
    rw [ofTokens, htype]

section Reading

variable {text : String} {expr : TypeExpr}

theorem parse_of_lexes {derivation : Derivation}
    (hlexes : Lexes text.toList derivation.tokens) : parse text = .ok derivation.expr := by
  rw [parse, tokens_of_lexes hlexes]
  exact (ofTokens_eq_ok_iff (recognised_of_lexes hlexes)).2 ⟨derivation, rfl, rfl⟩

theorem exists_derivation_of_parse (hparse : parse text = .ok expr) :
    ∃ derivation : Derivation, Lexes text.toList derivation.tokens ∧ derivation.expr = expr := by
  have hlexes := lexes_tokens text.toList
  obtain ⟨derivation, htokens, hexpr⟩ :=
    (ofTokens_eq_ok_iff (recognised_of_lexes hlexes)).1 hparse
  exact ⟨derivation, htokens ▸ hlexes, hexpr⟩

end Reading

/-- Each text has its tokens. It is read if and only if they have a derivation, which is then the only
one, and as what that derivation stands for; and it is rejected otherwise. -/
theorem parse_iff_derivable (text : String) :
    ∃ tokens, Lexes text.toList tokens ∧ (∀ other, Lexes text.toList other → other = tokens) ∧
      (∀ expr, parse text = .ok expr ↔
        ∃ derivation : Derivation, derivation.tokens = tokens ∧ derivation.expr = expr) ∧
      (∀ derivation derivation' : Derivation, derivation.tokens = tokens →
        derivation'.tokens = tokens → derivation = derivation') ∧
      ((¬ ∃ derivation : Derivation, derivation.tokens = tokens) →
        ∃ fault, parse text = .error fault ∧ ∀ registry space parameters,
          Registry.resolveText registry text space parameters =
            .error (.rejected [] (.invalidExpression text fault))) := by
  have hlexes := lexes_tokens text.toList
  have hread := fun expr => @ofTokens_eq_ok_iff _ expr (recognised_of_lexes hlexes)
  refine ⟨tokens text.toList, hlexes, fun other hother => (tokens_of_lexes hother).symm, hread, ?_, ?_⟩
  · intro derivation derivation' htokens htokens'
    exact Derivation.tokens_injective (htokens.trans htokens'.symm)
  · intro hnone
    cases hparse : parse text with
    | ok expr =>
      obtain ⟨derivation, htokens, -⟩ := (hread expr).1 hparse
      exact absurd ⟨derivation, htokens⟩ hnone
    | error fault =>
      refine ⟨fault, rfl, fun registry space parameters => ?_⟩
      rw [Registry.resolveText, hparse]

end ScriptBridge.TypeExpr
