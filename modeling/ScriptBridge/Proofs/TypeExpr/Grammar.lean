import ScriptBridge.Proofs.TypeExpr.Lexing
import ScriptBridge.TypeExpr.Parser

/-!
# The grammar of type expressions

Derivations, the tokens they derive and the expressions they stand for. A derivation is found again from
its tokens, whatever follows them.
-/

namespace ScriptBridge.TypeExpr

open Text

/-- Whether a token starts with a letter or an underscore. -/
def Token.StartsName (token : Token) : Prop :=
  ∃ c rest, token.text.toList = c :: rest ∧ (isAlphabetic c = true ∨ c = '_')

abbrev Identifier := { token : Token // token.StartsName }

inductive Separator
  | dot
  | plus

def Separator.token : Separator → Token
  | .dot => .symbol '.'
  | .plus => .symbol '+'

def Suffix.token : Suffix → Token
  | .nullable => .symbol '?'
  | .array => .brackets

/-- `Q ::= I (('.' | '+') I)*` -/
inductive QualifiedName
  | single (identifier : Identifier)
  | qualified (identifier : Identifier) (separator : Separator) (rest : QualifiedName)

namespace QualifiedName

def tokens : QualifiedName → List Token
  | single identifier => [identifier.1]
  | qualified identifier separator rest => identifier.1 :: separator.token :: rest.tokens

/-- The identifiers, joined by `.` whatever separates them. -/
def text : QualifiedName → String
  | single identifier => identifier.1.text
  | qualified identifier _ rest => identifier.1.text ++ "." ++ rest.text

end QualifiedName

/-- `T ::= Q ['<' T (',' T)* '>'] ('?' | '[]')*`. Without arguments there are no angle brackets. -/
inductive Derivation
  | mk (name : QualifiedName) (args : List Derivation) (suffixes : List Suffix)

namespace Derivation

mutual

def tokens : Derivation → List Token
  | mk name args suffixes => name.tokens ++ (argumentTokens args ++ suffixes.map Suffix.token)

def argumentTokens : List Derivation → List Token
  | [] => []
  | first :: others => .symbol '<' :: (first.tokens ++ closingTokens others)

def closingTokens : List Derivation → List Token
  | [] => [.symbol '>']
  | next :: others => .symbol ',' :: (next.tokens ++ closingTokens others)

end

mutual

def expr : Derivation → TypeExpr
  | mk name args suffixes => .mk name.text (exprs args) suffixes

def exprs : List Derivation → List TypeExpr
  | [] => []
  | first :: others => first.expr :: exprs others

end

/-- What holds of a derivation if it holds of those of its arguments, holds of all. -/
theorem induct {P : Derivation → Prop}
    (hmk : ∀ name args suffixes, (∀ arg ∈ args, P arg) → P (mk name args suffixes))
    (derivation : Derivation) : P derivation := by
  refine Derivation.rec (motive_1 := P) (motive_2 := fun args => ∀ arg ∈ args, P arg) hmk ?_ ?_ _
  · exact fun _ hmem => nomatch hmem
  · exact fun _ _ hfirst hothers => List.forall_mem_cons.2 ⟨hfirst, hothers⟩

end Derivation

/-! ### What is read has a derivation -/

/-- The tokens that are taken for identifiers are those that start with a letter or an underscore. -/
def Recognised (tokens : List Token) : Prop :=
  ∀ token ∈ tokens, (token.isIdentifier = true ↔ token.StartsName)

theorem Recognised.of_append {before after : List Token} (hall : Recognised (before ++ after)) :
    Recognised before ∧ Recognised after :=
  List.forall_mem_append.1 hall

section Reading

variable {token : Token} {tokens rest : List Token} {name : String}

theorem eq_cons_of_parseIdentifier {shorter : rest.length < tokens.length}
    (hread : parseIdentifier tokens = .ok (name, ⟨rest, shorter⟩)) :
    ∃ token, tokens = token :: rest ∧ token.isIdentifier = true ∧ token.text = name := by
  unfold parseIdentifier at hread
  split at hread
  · cases hread
  · rename_i token after
    split at hread
    · rename_i hidentifier
      cases hread
      exact ⟨token, rfl, hidentifier, rfl⟩
    · cases hread

theorem Token.exists_separator (hseparator : token.isSeparator = true) :
    ∃ separator : Separator, separator.token = token := by
  unfold isSeparator at hseparator
  split at hseparator
  · rename_i c
    rw [Bool.or_eq_true, beq_iff_eq, beq_iff_eq] at hseparator
    rcases hseparator with rfl | rfl
    · exact ⟨.dot, rfl⟩
    · exact ⟨.plus, rfl⟩
  · cases hseparator

theorem Token.suffix?_eq_some_iff {suffix : Suffix} :
    token.suffix? = some suffix ↔ token = suffix.token := by
  unfold suffix?
  split <;> cases suffix <;> simp_all [Suffix.token]

theorem exists_of_parseName (hall : Recognised tokens) {shorter : rest.length < tokens.length}
    (hread : parseName tokens = .ok (name, ⟨rest, shorter⟩)) :
    ∃ qualified : QualifiedName, qualified.tokens ++ rest = tokens ∧ qualified.text = name := by
  induction tokens using parseName.induct generalizing name with
  | case1 tokens fault hfirst =>
    -- No identifier.
    rw [parseName, hfirst] at hread
    cases hread
  | case2 tokens first shorter hfirst =>
    -- An identifier and nothing more.
    rw [parseName, hfirst] at hread
    cases hread
    obtain ⟨token, rfl, hidentifier, rfl⟩ := eq_cons_of_parseIdentifier hfirst
    exact ⟨.single ⟨token, (hall token List.mem_cons_self).1 hidentifier⟩, rfl, rfl⟩
  | case3 tokens first separator rest shorter hfirst hseparator fault hrest _ =>
    -- No name after a separator.
    rw [parseName, hfirst] at hread
    simp only [hseparator, if_true, hrest] at hread
    cases hread
  | case4 tokens first separator rest shorter hfirst hseparator others after shorter' hrest ih =>
    -- An identifier before a separator.
    rw [parseName, hfirst] at hread
    simp only [hseparator, if_true, hrest] at hread
    cases hread
    obtain ⟨token, rfl, hidentifier, rfl⟩ := eq_cons_of_parseIdentifier hfirst
    obtain ⟨qualified, htokens, htext⟩ := ih (@Recognised.of_append [_, _] _ hall).2 hrest
    obtain ⟨mark, rfl⟩ := Token.exists_separator hseparator
    refine ⟨.qualified ⟨token, (hall token List.mem_cons_self).1 hidentifier⟩ mark qualified, ?_, ?_⟩
    · exact congrArg (token :: mark.token :: ·) htokens
    · rw [QualifiedName.text, htext]
  | case5 tokens first token rest shorter hfirst hseparator =>
    -- An identifier before anything else.
    rw [parseName, hfirst] at hread
    simp only [hseparator] at hread
    cases hread
    obtain ⟨token, rfl, hidentifier, rfl⟩ := eq_cons_of_parseIdentifier hfirst
    exact ⟨.single ⟨token, (hall token List.mem_cons_self).1 hidentifier⟩, rfl, rfl⟩

theorem suffixes_of_parseSuffixes (tokens : List Token) :
    (parseSuffixes tokens).1.map Suffix.token ++ (parseSuffixes tokens).2.1 = tokens := by
  induction tokens with
  | nil => rfl
  | cons token rest ih =>
    rw [parseSuffixes]
    split
    · rename_i suffix hsuffix
      rw [Token.suffix?_eq_some_iff.1 hsuffix]
      exact congrArg (suffix.token :: ·) ih
    · rfl

end Reading

namespace Derivation

/-- What is read at the start of some tokens has a derivation of the tokens that are read. -/
theorem exists_of_parse :
    (∀ tokens, Recognised tokens → ∀ expr rest shorter,
        parseType tokens = .ok (expr, ⟨rest, shorter⟩) →
        ∃ derivation : Derivation, derivation.tokens ++ rest = tokens ∧ derivation.expr = expr) ∧
      ∀ tokens, Recognised tokens → ∀ args rest shorter,
        parseArguments tokens = .ok (args, ⟨rest, shorter⟩) →
        ∃ first others, first.tokens ++ (closingTokens others ++ rest) = tokens ∧
          exprs (first :: others) = args := by
  apply parseType.mutual_induct
  case case1 => -- no name
    intro tokens fault hname _ expr left shorter hread
    rw [parseType, hname] at hread
    cases hread
  case case2 => -- a name and nothing more
    intro tokens name shorter hname hall expr rest shorter' hread
    rw [parseType, hname] at hread
    cases hread
    obtain ⟨qualified, htokens, rfl⟩ := exists_of_parseName hall hname
    exact ⟨mk qualified [] [], by simpa [Derivation.tokens, argumentTokens] using htokens, rfl⟩
  case case3 => -- no arguments after `<`
    intro tokens name inner fault hargs shorter hname _ _ expr rest shorter' hread
    rw [parseType, hname] at hread
    simp only [if_true, hargs] at hread
    cases hread
  case case4 => -- a name with arguments
    intro tokens name inner args after _ hargs suffixes rest' _ hsuffixes shorter hname ih hall expr
      rest shorter' hread
    rw [parseType, hname] at hread
    simp only [if_true, hargs, hsuffixes] at hread
    cases hread
    obtain ⟨qualified, htokens, rfl⟩ := exists_of_parseName hall hname
    rw [← htokens] at hall
    obtain ⟨first, others, hinner, rfl⟩ :=
      ih (@Recognised.of_append [_] _ hall.of_append.2).2 _ _ _ hargs
    have hafter := suffixes_of_parseSuffixes after
    rw [hsuffixes] at hafter
    refine ⟨mk qualified (first :: others) suffixes, ?_, rfl⟩
    simp only [Derivation.tokens, argumentTokens, List.append_assoc, List.cons_append, hafter, hinner,
      htokens]
  case case5 => -- a name without arguments
    intro tokens name token inner shorter hname hopen suffixes rest' _ hsuffixes hall expr rest shorter'
      hread
    rw [parseType, hname] at hread
    simp only [hopen, if_false, hsuffixes] at hread
    cases hread
    obtain ⟨qualified, htokens, rfl⟩ := exists_of_parseName hall hname
    have hafter := suffixes_of_parseSuffixes (token :: inner)
    rw [hsuffixes] at hafter
    refine ⟨mk qualified [] suffixes, ?_, rfl⟩
    simp only [Derivation.tokens, argumentTokens, List.append_assoc, List.nil_append, hafter, htokens]
  case case6 => -- no first argument
    intro tokens fault htype _ _ args rest shorter hread
    rw [parseArguments, htype] at hread
    cases hread
  case case7 => -- nothing after an argument
    intro tokens first shorter htype _ _ args rest shorter hread
    rw [parseArguments, htype] at hread
    cases hread
  case case8 => -- no argument after a comma
    intro tokens first inner fault hargs shorter htype _ _ _ args rest shorter' hread
    rw [parseArguments, htype] at hread
    simp only [if_true, hargs] at hread
    cases hread
  case case9 => -- an argument before others
    intro tokens first inner args after _ hargs shorter htype ihfirst ihothers hall args' rest shorter'
      hread
    rw [parseArguments, htype] at hread
    simp only [if_true, hargs] at hread
    cases hread
    obtain ⟨derivation, htokens, rfl⟩ := ihfirst hall _ _ _ htype
    rw [← htokens] at hall
    obtain ⟨next, others, hinner, rfl⟩ :=
      ihothers (@Recognised.of_append [_] _ hall.of_append.2).2 _ _ _ hargs
    refine ⟨derivation, next :: others, ?_, rfl⟩
    simp only [closingTokens, List.append_assoc, List.cons_append, hinner, htokens]
  case case10 => -- the last argument
    intro tokens first inner shorter htype hcomma ih hall args rest shorter' hread
    rw [parseArguments, htype] at hread
    simp only [hcomma, if_false, if_true] at hread
    cases hread
    obtain ⟨derivation, htokens, rfl⟩ := ih hall _ _ _ htype
    exact ⟨derivation, [], htokens, rfl⟩
  case case11 => -- neither a comma nor `>` after an argument
    intro tokens first token inner shorter htype hcomma hclose _ _ args rest shorter' hread
    rw [parseArguments, htype] at hread
    simp only [hcomma, hclose, if_false] at hread
    cases hread

end Derivation

/-! ### What has a derivation is read -/

/-- What may stand after a type that stands among arguments, or after a whole text. -/
def Ends (rest : List Token) : Prop :=
  ∀ next ∈ rest.head?, next = .symbol ',' ∨ next = .symbol '>'

theorem ends_nil : Ends [] := by
  rintro next ⟨⟩

section Completeness

variable {rest : List Token}

theorem QualifiedName.parseName_tokens (qualified : QualifiedName)
    (hall : Recognised qualified.tokens) (hrest : ∀ next ∈ rest.head?, next.isSeparator = false) :
    ∃ shorter, parseName (qualified.tokens ++ rest) = .ok (qualified.text, ⟨rest, shorter⟩) := by
  induction qualified with
  | single identifier =>
    have hidentifier := (hall identifier.1 List.mem_cons_self).2 identifier.2
    rw [tokens, List.singleton_append, parseName]
    simp only [parseIdentifier, hidentifier, if_true]
    cases rest with
    | nil => exact ⟨Nat.zero_lt_one, rfl⟩
    | cons next rest =>
      simp only [hrest next rfl, Bool.false_eq_true, if_false]
      exact ⟨Nat.lt_succ_self _, rfl⟩
  | qualified identifier separator others ih =>
    have hidentifier := (hall identifier.1 List.mem_cons_self).2 identifier.2
    have hseparator : separator.token.isSeparator = true := by cases separator <;> rfl
    obtain ⟨shorter, hread⟩ := ih (@Recognised.of_append [_, _] _ hall).2
    rw [tokens, List.cons_append, List.cons_append, parseName]
    simp only [parseIdentifier, hidentifier, if_true, hseparator, hread]
    exact ⟨Nat.lt_add_right 2 shorter, rfl⟩

theorem parseSuffixes_append (suffixes : List Suffix)
    (hrest : ∀ next ∈ rest.head?, next.suffix? = none) :
    ∃ shorter, parseSuffixes (suffixes.map Suffix.token ++ rest) = (suffixes, ⟨rest, shorter⟩) := by
  induction suffixes with
  | nil =>
    rw [List.map_nil, List.nil_append]
    cases rest with
    | nil => exact ⟨_, rfl⟩
    | cons next rest =>
      rw [parseSuffixes, hrest next rfl]
      exact ⟨_, rfl⟩
  | cons suffix suffixes ih =>
    obtain ⟨shorter, hread⟩ := ih
    have hsuffix : suffix.token.suffix? = some suffix := Token.suffix?_eq_some_iff.2 rfl
    rw [List.map_cons, List.cons_append, parseSuffixes, hsuffix]
    exact ⟨Nat.le_succ_of_le shorter, by simp only [hread]⟩

theorem Ends.suffix?_eq_none (hends : Ends rest) : ∀ next ∈ rest.head?, next.suffix? = none := by
  intro next hnext
  rcases hends next hnext with rfl | rfl <;> rfl

namespace Derivation

theorem ends_closingTokens (args : List Derivation) : Ends (closingTokens args ++ rest) := by
  cases args with
  | nil =>
    rintro next ⟨⟩
    exact .inr rfl
  | cons first others =>
    rintro next ⟨⟩
    exact .inl rfl

/-- After a name come arguments, suffixes or the end, none of which goes on with the name. -/
theorem head_after_name (args : List Derivation) (suffixes : List Suffix) (hends : Ends rest) :
    ∀ next ∈ (argumentTokens args ++ (suffixes.map Suffix.token ++ rest)).head?,
      next.isSeparator = false := by
  intro next hnext
  cases args with
  | cons first others =>
    cases hnext
    rfl
  | nil =>
    cases suffixes with
    | cons suffix suffixes =>
      cases hnext
      cases suffix <;> rfl
    | nil => rcases hends next hnext with rfl | rfl <;> rfl

theorem head_after_arguments (suffixes : List Suffix) (hends : Ends rest) :
    ∀ next ∈ (suffixes.map Suffix.token ++ rest).head?, next ≠ .symbol '<' := by
  intro next hnext
  cases suffixes with
  | cons suffix suffixes =>
    cases hnext
    cases suffix <;> decide
  | nil => rcases hends next hnext with rfl | rfl <;> decide

theorem parseType_of_no_arguments {tokens after : List Token} {name : String}
    {suffixes : List Suffix} {shorter : after.length < tokens.length}
    {shorter' : rest.length ≤ after.length}
    (hname : parseName tokens = .ok (name, ⟨after, shorter⟩))
    (hopen : ∀ next ∈ after.head?, next ≠ .symbol '<')
    (hsuffixes : parseSuffixes after = (suffixes, ⟨rest, shorter'⟩)) :
    ∃ shorter, parseType tokens = .ok (.mk name [] suffixes, ⟨rest, shorter⟩) := by
  rw [parseType, hname]
  cases after with
  | nil =>
    cases hsuffixes
    exact ⟨shorter, rfl⟩
  | cons next after =>
    exact ⟨Nat.lt_of_le_of_lt shorter' shorter, by simp only [hopen next rfl, if_false, hsuffixes]⟩

theorem parseArguments_tokens {first : Derivation} {others : List Derivation}
    (hread : ∀ arg ∈ first :: others, ∀ rest, Recognised arg.tokens → Ends rest →
      ∃ shorter, parseType (arg.tokens ++ rest) = .ok (arg.expr, ⟨rest, shorter⟩))
    (hall : Recognised (first.tokens ++ closingTokens others)) (rest : List Token) :
    ∃ shorter, parseArguments (first.tokens ++ (closingTokens others ++ rest)) =
      .ok (exprs (first :: others), ⟨rest, shorter⟩) := by
  induction others generalizing first with
  | nil =>
    have hfirst := hread first List.mem_cons_self _ hall.of_append.1 (@ends_closingTokens rest [])
    simp only [closingTokens, List.singleton_append] at hfirst ⊢
    obtain ⟨shorter, hfirst⟩ := hfirst
    rw [parseArguments, hfirst]
    exact ⟨Nat.lt_of_succ_lt shorter, rfl⟩
  | cons next others ih =>
    have hfirst := hread first List.mem_cons_self _ hall.of_append.1
      (@ends_closingTokens rest (next :: others))
    obtain ⟨shorter, hothers⟩ := ih (fun arg hmem => hread arg (List.mem_cons_of_mem _ hmem))
      (@Recognised.of_append [_] _ hall.of_append.2).2
    simp only [closingTokens, List.cons_append, List.append_assoc] at hfirst ⊢
    obtain ⟨shorter', hfirst⟩ := hfirst
    rw [parseArguments, hfirst]
    simp only [if_true, hothers]
    exact ⟨Nat.lt_trans shorter (Nat.lt_of_succ_lt shorter'), rfl⟩

/-- The tokens of a derivation are read as what it stands for. -/
theorem parseType_tokens (derivation : Derivation) (rest : List Token)
    (hall : Recognised derivation.tokens) (hends : Ends rest) :
    ∃ shorter, parseType (derivation.tokens ++ rest) = .ok (derivation.expr, ⟨rest, shorter⟩) := by
  induction derivation using induct generalizing rest with
  | hmk name args suffixes ih =>
    rw [tokens] at hall
    have hname := name.parseName_tokens hall.of_append.1 (head_after_name args suffixes hends)
    obtain ⟨_, hsuffixes⟩ := parseSuffixes_append suffixes hends.suffix?_eq_none
    rw [tokens, List.append_assoc, List.append_assoc]
    cases args with
    | nil =>
      obtain ⟨shorter, hname⟩ := hname
      exact parseType_of_no_arguments hname (head_after_arguments suffixes hends) hsuffixes
    | cons first others =>
      obtain ⟨_, hargs⟩ := parseArguments_tokens ih
        (@Recognised.of_append [_] _ hall.of_append.2.of_append.1).2 (suffixes.map Suffix.token ++ rest)
      simp only [argumentTokens, List.cons_append, List.append_assoc] at hname ⊢
      obtain ⟨_, hname⟩ := hname
      rw [parseType, hname]
      simp only [if_true, hargs]
      exact ⟨by simp; omega, by simp only [hsuffixes]; rfl⟩

end Derivation

end Completeness

end ScriptBridge.TypeExpr
