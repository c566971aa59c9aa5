import ScriptBridge.Proofs.TypeExpr.Derivability

/-!
# Texts put together

A text is read as before inside a longer one if no token of it goes on there. So an expression can be
read with one more suffix, and as the argument of a name.
-/

namespace ScriptBridge.TypeExpr

open Text

/-- A text starts with no character that a token before it can go on with. -/
def Separate (rest : List Char) : Prop :=
  ∀ c ∈ rest.head?, isWordPart c = false ∧ isBlank c = false ∧ c ≠ ':' ∧ c ≠ ']'

section Appending

variable {text name rest after : List Char} {c : Char} {found others : List Token}

theorem separate_cons (hpart : isWordPart c = false) (hblank : isBlank c = false) (hcolon : c ≠ ':')
    (hclose : c ≠ ']') : Separate (c :: rest) := by
  rintro _ ⟨⟩
  exact ⟨hpart, hblank, hcolon, hclose⟩

theorem head?_append_stops (hrest : ∀ c ∈ rest.head?, isWordPart c = false)
    (hafter : Separate after) : ∀ c ∈ (rest ++ after).head?, isWordPart c = false := by
  intro c hc
  cases rest with
  | nil => exact (hafter c hc).1
  | cons first rest => exact hrest c hc

/-- An identifier that does not begin with `global::` does not come to do so. -/
theorem not_globalMark_prefix_append (hname : ∀ c ∈ name, isWordPart c = true)
    (hrest : ∀ c ∈ rest.head?, isWordPart c = false) (hmark : ¬ globalMark <+: name ++ rest)
    (hafter : Separate after) : ¬ globalMark <+: name ++ (rest ++ after) := by
  rintro ⟨tail, htail⟩
  have hstop := head?_append_stops hrest hafter
  have hcolons : rest ++ after = ':' :: ':' :: tail := by
    rw [← dropWhile_append_of_stop hname hstop, ← htail]
    rfl
  have hglobal : name = ['g', 'l', 'o', 'b', 'a', 'l'] := by
    rw [← takeWhile_append_of_stop hname hstop, ← htail]
    rfl
  rcases rest with _ | ⟨first, _ | ⟨second, rest⟩⟩
  · exact (hafter ':' (congrArg List.head? hcolons)).2.2.1 rfl
  · exact (hafter ':' (congrArg List.head? (List.cons.inj hcolons).2)).2.2.1 rfl
  · obtain ⟨rfl, hsecond⟩ := List.cons.inj hcolons
    obtain ⟨rfl, -⟩ := List.cons.inj hsecond
    exact hmark ⟨rest, by rw [hglobal]; rfl⟩

theorem not_opensBrackets_append (hopen : ¬ OpensBrackets (c :: rest)) (hafter : Separate after) :
    ¬ OpensBrackets (c :: (rest ++ after)) := by
  intro hopens
  have hbracket : c = '[' := by
    obtain ⟨blanks, tail, -, htext⟩ := hopens
    exact (List.cons.inj htext).1
  subst hbracket
  obtain ⟨tail, htail⟩ := opensBrackets_iff.1 hopens
  rw [List.dropWhile_append] at htail
  by_cases hblanks : (rest.dropWhile isBlank).isEmpty = true
  · rw [if_pos hblanks] at htail
    cases after with
    | nil => cases htail
    | cons first after =>
      obtain ⟨-, hblank, -, hclose⟩ := hafter first rfl
      rw [List.dropWhile_cons, hblank, if_neg Bool.false_ne_true] at htail
      exact hclose (List.cons.inj htail).1
  · rw [if_neg hblanks] at htail
    cases hdropped : rest.dropWhile isBlank with
    | nil => exact hblanks (by rw [hdropped]; rfl)
    | cons first others =>
      rw [hdropped] at htail
      obtain ⟨rfl, -⟩ := List.cons.inj htail
      exact hopen (opensBrackets_iff.2 ⟨others, hdropped⟩)

/-- The tokens of a text come before those of the text after it. -/
theorem Lexes.append (hlexes : Lexes text found) (hafter : Separate after)
    (hothers : Lexes after others) : Lexes (text ++ after) (found ++ others) := by
  induction hlexes with
  | done => exact hothers
  | blank hblank _ ih => exact .blank hblank ih
  | qualifier _ ih =>
    rw [List.append_assoc]
    exact .qualifier ih
  | word hword hend hmark _ ih =>
    rw [List.append_assoc]
    exact .word hword (head?_append_stops hend hafter)
      (not_globalMark_prefix_append (isWordPart_of_isWord hword) hend hmark hafter) ih
  | brackets hblanks _ ih =>
    rw [List.cons_append, List.append_assoc, List.cons_append]
    exact .brackets hblanks ih
  | symbol hblank hstart hopen _ ih =>
    exact .symbol hblank hstart (not_opensBrackets_append hopen hafter) ih

end Appending

/-! ### Longer expressions -/

theorem Suffix.lexes_text (suffix : Suffix) : Lexes suffix.text.toList [suffix.token] := by
  cases suffix with
  | nullable =>
    refine Lexes.symbol (by decide) (by decide) ?_ .done
    rintro ⟨_, _, -, htext⟩
    cases htext
  | array => exact @Lexes.brackets [] [] [] (fun _ hmem => nomatch hmem) .done

theorem Suffix.separate_text (suffix : Suffix) : Separate suffix.text.toList := by
  cases suffix with
  | nullable => exact separate_cons (by decide) (by decide) (by decide) (by decide)
  | array => exact separate_cons (by decide) (by decide) (by decide) (by decide)

section Longer

variable {text : String} {name : String} {args : List TypeExpr} {suffixes : List Suffix}
  {expr : TypeExpr}

/-- An expression with a suffix after it is read with that suffix as the outermost. -/
theorem parse_append_suffix (hparse : parse text = .ok (.mk name args suffixes)) (suffix : Suffix) :
    parse (text ++ suffix.text) = .ok (.mk name args (suffixes ++ [suffix])) := by
  obtain ⟨⟨qualified, inner, own⟩, hlexes, hexpr⟩ := exists_derivation_of_parse hparse
  cases hexpr
  have hlonger : Lexes (text ++ suffix.text).toList
      (Derivation.mk qualified inner (suffixes ++ [suffix])).tokens := by
    have hboth := hlexes.append suffix.separate_text suffix.lexes_text
    rw [Derivation.tokens, List.append_assoc, List.append_assoc] at hboth
    rw [String.toList_append, Derivation.tokens, List.map_append]
    exact hboth
  exact parse_of_lexes hlonger

/-- An expression between angle brackets after a name is read as the argument of that name. -/
theorem parse_applied {head : String} {qualified : QualifiedName}
    (hhead : Lexes head.toList qualified.tokens) (hparse : parse text = .ok expr) :
    parse (head ++ "<" ++ text ++ ">") = .ok (.mk qualified.text [expr] []) := by
  obtain ⟨argument, hargument, rfl⟩ := exists_derivation_of_parse hparse
  have hclosing : Lexes ['>'] [.symbol '>'] := by
    refine Lexes.symbol (by decide) (by decide) ?_ .done
    rintro ⟨_, _, -, htext⟩
    cases htext
  have hinner := hargument.append
    (separate_cons (by decide) (by decide) (by decide) (by decide)) hclosing
  have hopening : Lexes ('<' :: (text.toList ++ ['>']))
      (.symbol '<' :: (argument.tokens ++ [.symbol '>'])) := by
    refine Lexes.symbol (by decide) (by decide) ?_ hinner
    rintro ⟨_, _, -, htext⟩
    cases htext
  have hwhole : Lexes (head ++ "<" ++ text ++ ">").toList
      (Derivation.mk qualified [argument] []).tokens := by
    have hboth := hhead.append
      (separate_cons (by decide) (by decide) (by decide) (by decide)) hopening
    simpa [Derivation.tokens, Derivation.argumentTokens, Derivation.closingTokens] using hboth
  exact parse_of_lexes hwhole

end Longer

end ScriptBridge.TypeExpr
