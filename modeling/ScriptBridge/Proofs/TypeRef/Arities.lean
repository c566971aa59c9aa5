import Mathlib
import ScriptBridge.Proofs.TypeExpr.Derivability
import ScriptBridge.Proofs.TypeRef.Declared

/-!
# Numbers of type arguments

A declaration that has type parameters is found only by a name with as many arguments. Nothing in a name
can be taken for the number of parameters in a key, since no type expression has backquotes in it.
-/

namespace ScriptBridge

/-! ### Names in expressions -/

namespace TypeExpr

/-- What names in expressions consist of: the characters of identifiers, and the dots between them. -/
def IsNameChar (c : Char) : Prop :=
  isWordPart c = true ∨ Text.isAlphabetic c = true ∨ c = '.'

theorem not_isNameChar {c : Char} (hpart : isWordPart c = false)
    (halphabetic : Text.isAlphabetic c = false) (hdot : c ≠ '.') : ¬ IsNameChar c := by
  rintro (hword | hletter | heq)
  · exact Bool.false_ne_true (hpart.symm.trans hword)
  · exact Bool.false_ne_true (halphabetic.symm.trans hletter)
  · exact hdot heq

theorem not_isNameChar_backquote : ¬ IsNameChar '\x60' :=
  not_isNameChar (by decide) (by decide +kernel) (by decide)

/-- All names in the expression consist of identifiers and dots. -/
inductive Plain : TypeExpr → Prop
  | mk {name : String} {args : List TypeExpr} {suffixes : List Suffix} :
    (∀ c ∈ name.toList, IsNameChar c) → (∀ arg ∈ args, Plain arg) → Plain (.mk name args suffixes)

theorem isNameChar_of_identifier {token : Token} (hformed : token.WellFormed)
    (hidentifier : token.isIdentifier = true) : ∀ c ∈ token.text.toList, IsNameChar c := by
  intro c hmem
  cases token with
  | word name => exact .inl (isWordPart_of_isWord hformed _ hmem)
  | brackets => cases hidentifier
  | symbol letter =>
    rw [Token.toList_text_symbol, List.mem_singleton] at hmem
    exact .inr (.inl (hmem ▸ hidentifier))

theorem QualifiedName.isNameChar_of_mem_text (qualified : QualifiedName)
    (hformed : ∀ token ∈ qualified.tokens, token.WellFormed) :
    ∀ c ∈ qualified.text.toList, IsNameChar c := by
  induction qualified with
  | single identifier =>
    have htoken := hformed identifier.1 List.mem_cons_self
    exact isNameChar_of_identifier htoken
      ((Token.isIdentifier_iff_startsName htoken).2 identifier.2)
  | qualified identifier separator rest ih =>
    have htoken := hformed identifier.1 List.mem_cons_self
    have hfirst := isNameChar_of_identifier htoken
      ((Token.isIdentifier_iff_startsName htoken).2 identifier.2)
    have hrest := ih fun token hmem =>
      hformed token (List.mem_cons_of_mem _ (List.mem_cons_of_mem _ hmem))
    rw [text, String.toList_append, String.toList_append, List.forall_mem_append,
      List.forall_mem_append]
    exact ⟨⟨hfirst, fun c hmem => .inr (.inr (List.mem_singleton.1 hmem))⟩, hrest⟩

namespace Derivation

theorem mem_argumentTokens {arg : Derivation} {args : List Derivation} (harg : arg ∈ args)
    {token : Token} (htoken : token ∈ arg.tokens) : token ∈ argumentTokens args := by
  have hclosing : ∀ others : List Derivation, arg ∈ others → token ∈ closingTokens others := by
    intro others hothers
    induction others with
    | nil => cases hothers
    | cons next others ih =>
      rw [closingTokens]
      apply List.mem_cons_of_mem
      rcases List.mem_cons.1 hothers with rfl | hothers
      · exact List.mem_append_left _ htoken
      · exact List.mem_append_right _ (ih hothers)
  cases args with
  | nil => cases harg
  | cons first others =>
    rw [argumentTokens]
    apply List.mem_cons_of_mem
    rcases List.mem_cons.1 harg with rfl | harg
    · exact List.mem_append_left _ htoken
    · exact List.mem_append_right _ (hclosing others harg)

theorem mem_exprs_iff {args : List Derivation} {expr : TypeExpr} :
    expr ∈ exprs args ↔ ∃ arg ∈ args, arg.expr = expr := by
  induction args with
  | nil => simp [exprs]
  | cons first others ih => simp [exprs, ih, eq_comm]

theorem plain_expr (derivation : Derivation)
    (hformed : ∀ token ∈ derivation.tokens, token.WellFormed) : derivation.expr.Plain := by
  induction derivation using induct with
  | hmk name args suffixes ih =>
    rw [tokens] at hformed
    refine .mk (name.isNameChar_of_mem_text fun token hmem =>
      hformed token (List.mem_append_left _ hmem)) ?_
    intro expr hexpr
    obtain ⟨arg, harg, rfl⟩ := mem_exprs_iff.1 hexpr
    refine ih arg harg fun token hmem => hformed token ?_
    exact List.mem_append_right _ (List.mem_append_left _ (mem_argumentTokens harg hmem))

end Derivation

theorem plain_of_parse {text : String} {expr : TypeExpr} (hparse : parse text = .ok expr) :
    expr.Plain := by
  obtain ⟨derivation, hlexes, rfl⟩ := exists_derivation_of_parse hparse
  exact derivation.plain_expr (wellFormed_of_lexes hlexes)

end TypeExpr

/-! ### Keys and their numbers -/

namespace TypeIdentity

/-- What a key has after the full name. -/
def arityMark (arity : Nat) : List Char :=
  if arity = 0 then [] else '\x60' :: (toString arity).toList

theorem toList_keyOf (fullName : String) (arity : Nat) :
    (keyOf fullName arity).toList = fullName.toList ++ arityMark arity := by
  unfold keyOf arityMark
  split
  · rw [List.append_nil]
  · rw [String.toList_append, String.toList_append, List.append_assoc]
    rfl

theorem isDigit_of_mem_toString {n : Nat} {c : Char} (hc : c ∈ (toString n).toList) :
    c.isDigit = true := by
  have hrepr : (toString n).toList = Nat.toDigits 10 n := by
    rw [← String.toList_ofList (l := Nat.toDigits 10 n), ← Nat.repr_eq_ofList_toDigits]
    rfl
  rw [hrepr] at hc
  exact Nat.isDigit_of_mem_toDigits (by decide) (by decide) hc

theorem backquote_not_mem_toString (n : Nat) : '\x60' ∉ (toString n).toList :=
  fun hmem => absurd (isDigit_of_mem_toString hmem) (by decide)

/-- What follows the last mark is told by the whole text. -/
theorem eq_of_append_mark {before before' after after' : List Char} (hafter : '\x60' ∉ after)
    (hafter' : '\x60' ∉ after') (heq : before ++ '\x60' :: after = before' ++ '\x60' :: after') :
    after = after' := by
  rcases List.append_eq_append_iff.1 heq with ⟨between, -, hrest⟩ | ⟨between, -, hrest⟩
  · cases between with
    | nil => exact (List.cons.inj hrest).2
    | cons c between =>
      rw [(List.cons.inj hrest).2] at hafter
      exact absurd (List.mem_append_right _ List.mem_cons_self) hafter
  · cases between with
    | nil => exact (List.cons.inj hrest).2.symm
    | cons c between =>
      rw [(List.cons.inj hrest).2] at hafter'
      exact absurd (List.mem_append_right _ List.mem_cons_self) hafter'

theorem append_ne_of_unmarked {spaces name before digits : List Char} (hname : '\x60' ∉ name)
    (hdigits : ∀ c ∈ digits, c.isDigit = true) (hspaces : ∀ c ∈ spaces.getLast?, c = '.') :
    spaces ++ name ≠ before ++ '\x60' :: digits := by
  intro heq
  rcases List.append_eq_append_iff.1 heq with ⟨between, -, hrest⟩ | ⟨between, hbefore, hrest⟩
  · rw [hrest] at hname
    exact hname (List.mem_append_right _ List.mem_cons_self)
  · cases between with
    | nil =>
      rw [List.nil_append] at hrest
      rw [← hrest] at hname
      exact hname List.mem_cons_self
    | cons c between =>
      obtain ⟨rfl, hbetween⟩ := List.cons.inj hrest
      have hlast : spaces.getLast? = ('\x60' :: between).getLast? := by
        rw [hbefore, List.getLast?_append, List.getLast?_cons]
        rfl
      rw [hlast, List.getLast?_cons] at hspaces
      have hdot := hspaces _ rfl
      cases between with
      | nil => exact absurd hdot (by decide)
      | cons d between =>
        have hmem : '.' ∈ d :: between := hdot ▸ List.getLast_mem (List.cons_ne_nil d between)
        have hdigit := hdigits '.' (hbetween ▸ List.mem_append_left _ hmem)
        exact absurd hdigit (by decide)

end TypeIdentity

namespace Registry

variable {registry : Registry} {name space : String} {arity : Nat} {decl : TypeDecl}

theorem exists_spaces (parts : List String) (name : String) :
    ∃ spaces : List Char, (Text.dotted (parts ++ [name])).toList = spaces ++ name.toList ∧
      ∀ c ∈ spaces.getLast?, c = '.' := by
  by_cases hparts : parts = []
  · subst hparts
    refine ⟨[], ?_, ?_⟩
    · rw [Text.dotted, List.nil_append, String.intercalate_singleton, List.nil_append]
    · intro c hc
      cases hc
  · refine ⟨(Text.dotted parts).toList ++ ['.'], ?_, ?_⟩
    · rw [Text.dotted, String.intercalate_append_of_ne_nil hparts (List.cons_ne_nil _ _),
        String.intercalate_singleton, String.toList_append, String.toList_append]
      rfl
    · intro c hc
      rw [List.getLast?_concat] at hc
      exact (Option.mem_some_iff.1 hc).symm

/-- A declaration with type parameters is found by a name with as many arguments. -/
theorem arity_of_lookup? (hlookup : registry.lookup? name space arity = some decl)
    (hname : '\x60' ∉ name.toList) (hparameters : decl.parameters ≠ []) :
    decl.parameters.length = arity := by
  obtain ⟨key, hkey, hfind⟩ := List.exists_of_findSome?_eq_some hlookup
  obtain ⟨parts, -, rfl⟩ := List.mem_map.1 hkey
  have harity : decl.identity.arity ≠ 0 := fun hzero =>
    hparameters (List.eq_nil_of_length_eq_zero hzero)
  have hlist := congrArg String.toList (key_identity_of_find? hfind)
  rw [TypeIdentity.key, TypeIdentity.toList_keyOf, TypeIdentity.toList_keyOf,
    TypeIdentity.arityMark, if_neg harity] at hlist
  obtain ⟨spaces, hdotted, hspaces⟩ := exists_spaces parts name
  by_cases hzero : arity = 0
  · rw [TypeIdentity.arityMark, if_pos hzero, List.append_nil, hdotted] at hlist
    exact absurd hlist.symm (TypeIdentity.append_ne_of_unmarked hname
      (fun c hc => TypeIdentity.isDigit_of_mem_toString hc) hspaces)
  · rw [TypeIdentity.arityMark, if_neg hzero] at hlist
    have hdigits := TypeIdentity.eq_of_append_mark (TypeIdentity.backquote_not_mem_toString _)
      (TypeIdentity.backquote_not_mem_toString _) hlist
    exact Nat.repr_inj.1 (String.toList_inj.1 hdigits)

end Registry

end ScriptBridge
