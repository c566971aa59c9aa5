import Mathlib.Data.List.TakeWhile
import ScriptBridge.Proofs.Namespace.Answers
import ScriptBridge.Proofs.Number.Numerals
import ScriptBridge.Proofs.Outcome

/-!
# Replacements, read directly

A replacement is written as a template before it is read. That is the same as reading it from left to
right: a reference is a dollar sign with the digits after it, or with a name between braces, and every
other character stands for itself.
-/

namespace ScriptBridge.Namespace

/-- What a replacement is made of. -/
inductive Fragment
  | char (c : Char)
  | reference (name : List Char)
deriving Repr, DecidableEq

namespace Fragment

/-- The fragments of a replacement. -/
def ofText (text : List Char) : List Fragment :=
  match text with
  | [] => []
  | c :: rest =>
    if c == '$' then
      let digits := rest.takeWhile Text.isDecimal
      if digits.isEmpty then
        match _found : bracedName? rest with
        | some (name, rest') => .reference name :: ofText rest'
        | none => .char c :: ofText rest
      else .reference digits :: ofText (rest.dropWhile Text.isDecimal)
    else .char c :: ofText rest
termination_by text.length
decreasing_by
  · exact Nat.lt_succ_of_lt (length_lt_of_bracedName? _found)
  · simp
  · exact Nat.lt_succ_of_le (List.dropWhile_suffix Text.isDecimal).length_le
  · simp

/-- A fragment as a template has it. -/
def template : Fragment → List Char
  | .char c => if c == '\\' then ['\\', '\\'] else [c]
  | .reference name => templateReference name

/-- What a fragment stands for in a template of a pattern. -/
def piece (pattern : NumberedPattern) : Fragment → Except Template.Fault Template.Piece
  | .char c => .ok (.char c)
  | .reference name => (Template.groupIndex pattern name).map .group

end Fragment

/-! ### Names between braces -/

/-- What references are written with besides names, in replacements and in templates. -/
def marks : List Char := ['$', '\x7b', '\x7d', '\\', '>']

theorem marks_apart : (marks.all fun c => !Text.isWordChar c) = true := by
  decide +kernel

theorem isWordChar_of_mem_marks {c : Char} (hc : c ∈ marks) : Text.isWordChar c = false := by
  simpa using List.all_eq_true.1 marks_apart c hc

theorem isDecimal_of_mem_marks {c : Char} (hc : c ∈ marks) : Text.isDecimal c = false := by
  have hword := isWordChar_of_mem_marks hc
  simp only [Text.isWordChar, Bool.or_eq_false_iff] at hword
  exact hword.1.2

/-- A name between braces. -/
def braced (name : List Char) : List Char :=
  '\x7b' :: name ++ ['\x7d']

theorem bracedName?_eq_some_iff {text name rest : List Char} :
    bracedName? text = some (name, rest) ↔
      name ≠ [] ∧ (∀ c ∈ name, Text.isWordChar c = true) ∧
        text = braced name ++ rest := by
  constructor
  · intro hfound
    unfold bracedName? at hfound
    split at hfound
    · rename_i body
      dsimp only at hfound
      split at hfound
      · rename_i tail hdrop
        split at hfound
        · cases hfound
        · rename_i hfull
          cases hfound
          refine ⟨by simpa using hfull, fun c hc => List.mem_takeWhile_imp hc, ?_⟩
          obtain ⟨after, hbody⟩ := List.takeWhile_prefix Text.isWordChar (l := body)
          have hafter := (congrArg (List.drop _) hbody.symm).trans List.drop_left
          rw [hdrop] at hafter
          have hsplit : body = body.takeWhile Text.isWordChar ++ '\x7d' :: rest :=
            hafter ▸ hbody.symm
          exact (congrArg ('\x7b' :: ·) hsplit).trans (by simp [braced])
      · cases hfound
    · cases hfound
  · rintro ⟨hne, hwords, rfl⟩
    have htake : (name ++ '\x7d' :: rest).takeWhile Text.isWordChar = name := by
      rw [List.takeWhile_append_of_pos hwords, List.takeWhile_cons,
        isWordChar_of_mem_marks (by decide)]
      simp
    simp [bracedName?, braced, htake, hne]

/-! ### Backslashes -/

section Backslashes

variable {p : Char → Bool} (text : List Char)

theorem escapeBackslashes_cons (c : Char) :
    escapeBackslashes (c :: text) =
      (if c == '\\' then ['\\', '\\'] else [c]) ++ escapeBackslashes text :=
  List.flatMap_cons

theorem escapeBackslashes_cons_of_ne {c : Char} (hc : c ≠ '\\') :
    escapeBackslashes (c :: text) = c :: escapeBackslashes text := by
  rw [escapeBackslashes_cons, if_neg (by simpa using hc)]
  rfl

/-- A run of characters that ends before a backslash is not changed. -/
theorem takeWhile_escapeBackslashes (hstop : p '\\' = false) :
    (escapeBackslashes text).takeWhile p = text.takeWhile p ∧
      (escapeBackslashes text).dropWhile p = escapeBackslashes (text.dropWhile p) := by
  induction text with
  | nil => exact ⟨rfl, rfl⟩
  | cons c rest ih =>
    by_cases hc : c = '\\'
    · subst hc
      simp [hstop, escapeBackslashes_cons]
    · rw [escapeBackslashes_cons_of_ne rest hc]
      cases hp : p c with
      | true => simp [hp, ih]
      | false => simp [hp, escapeBackslashes_cons_of_ne rest hc]

/-- What begins without backslashes begins so before it is escaped. -/
theorem escapeBackslashes_eq_append_iff {text start rest : List Char} (hplain : '\\' ∉ start) :
    escapeBackslashes text = start ++ rest ↔
      ∃ rest', text = start ++ rest' ∧ escapeBackslashes rest' = rest := by
  induction start generalizing text with
  | nil => simp
  | cons c start ih =>
    rw [List.mem_cons, not_or] at hplain
    obtain ⟨hc, hstart⟩ := hplain
    cases text with
    | nil => simp [escapeBackslashes]
    | cons d text =>
      by_cases hd : d = '\\'
      · subst hd
        simp [escapeBackslashes_cons, hc]
      · rw [escapeBackslashes_cons_of_ne text hd, List.cons_append, List.cons.injEq, ih hstart]
        simp [and_assoc]

theorem bracedName?_escapeBackslashes :
    bracedName? (escapeBackslashes text) =
      (bracedName? text).map fun (name, rest) => (name, escapeBackslashes rest) := by
  refine Option.ext fun ⟨name, rest⟩ => ?_
  rw [bracedName?_eq_some_iff, Option.map_eq_some_iff]
  have hplain : (∀ c ∈ name, Text.isWordChar c = true) → '\\' ∉ braced name := by
    intro hwords hmem
    have hword := hwords '\\' (by simpa [braced] using hmem)
    rw [isWordChar_of_mem_marks (by decide)] at hword
    cases hword
  constructor
  · rintro ⟨hne, hwords, htext⟩
    obtain ⟨rest', htext, hrest⟩ := (escapeBackslashes_eq_append_iff (hplain hwords)).1 htext
    exact ⟨(name, rest'), bracedName?_eq_some_iff.2 ⟨hne, hwords, htext⟩, Prod.ext rfl hrest⟩
  · rintro ⟨⟨name', rest'⟩, hfound, hsame⟩
    obtain ⟨rfl, hrest⟩ := Prod.mk.inj hsame
    obtain ⟨hne, hwords, htext⟩ := bracedName?_eq_some_iff.1 hfound
    exact ⟨hne, hwords, (escapeBackslashes_eq_append_iff (hplain hwords)).2 ⟨rest', htext, hrest⟩⟩

end Backslashes

/-! ### Templates -/

theorem groupReferences_cons_of_ne {c : Char} (hc : c ≠ '$') (text : List Char) :
    groupReferences (c :: text) = c :: groupReferences text := by
  rw [groupReferences, if_neg (by simpa using hc)]

theorem groupReferences_dollar (text : List Char) :
    groupReferences ('$' :: text) =
      if (text.takeWhile Text.isDecimal).isEmpty then
        (bracedName? text).elim ('$' :: groupReferences text)
          fun found => templateReference found.1 ++ groupReferences found.2
      else
        templateReference (text.takeWhile Text.isDecimal) ++
          groupReferences (text.dropWhile Text.isDecimal) := by
  rw [groupReferences, if_pos (by decide)]
  dsimp only
  generalize bracedName? text = found
  cases found <;> rfl

theorem Fragment.ofText_dollar (text : List Char) :
    ofText ('$' :: text) =
      if (text.takeWhile Text.isDecimal).isEmpty then
        (bracedName? text).elim (.char '$' :: ofText text)
          fun found => .reference found.1 :: ofText found.2
      else
        .reference (text.takeWhile Text.isDecimal) :: ofText (text.dropWhile Text.isDecimal) := by
  rw [ofText, if_pos (by decide)]
  dsimp only
  generalize bracedName? text = found
  cases found <;> rfl

/-- A replacement becomes a template fragment by fragment. -/
theorem groupReferences_escapeBackslashes (text : List Char) :
    groupReferences (escapeBackslashes text) = (Fragment.ofText text).flatMap Fragment.template := by
  induction text using Fragment.ofText.induct with
  | case1 =>
    rw [Fragment.ofText, escapeBackslashes, List.flatMap_nil, groupReferences, List.flatMap_nil]
  -- Digits and names have no backslashes, so what follows a dollar sign is found as it was.
  | case2 c rest hdollar digits hdigits name rest' hfound ih =>
    obtain rfl : c = '$' := by simpa using hdollar
    obtain ⟨htake, hdrop⟩ := takeWhile_escapeBackslashes rest (isDecimal_of_mem_marks (by decide))
    rw [escapeBackslashes_cons_of_ne rest (by decide), groupReferences_dollar,
      Fragment.ofText_dollar, htake, if_pos hdigits, if_pos hdigits, bracedName?_escapeBackslashes,
      hfound]
    exact congrArg (templateReference name ++ ·) ih
  | case3 c rest hdollar digits hdigits hnone ih =>
    obtain rfl : c = '$' := by simpa using hdollar
    obtain ⟨htake, hdrop⟩ := takeWhile_escapeBackslashes rest (isDecimal_of_mem_marks (by decide))
    rw [escapeBackslashes_cons_of_ne rest (by decide), groupReferences_dollar,
      Fragment.ofText_dollar, htake, if_pos hdigits, if_pos hdigits, bracedName?_escapeBackslashes,
      hnone]
    exact congrArg _ ih
  | case4 c rest hdollar digits hdigits ih =>
    obtain rfl : c = '$' := by simpa using hdollar
    obtain ⟨htake, hdrop⟩ := takeWhile_escapeBackslashes rest (isDecimal_of_mem_marks (by decide))
    rw [escapeBackslashes_cons_of_ne rest (by decide), groupReferences_dollar,
      Fragment.ofText_dollar, htake, hdrop, if_neg hdigits, if_neg hdigits, ih]
    rfl
  | case5 c rest hdollar ih =>
    rw [Fragment.ofText, if_neg hdollar, List.flatMap_cons, ← ih, Fragment.template,
      escapeBackslashes_cons]
    by_cases hc : c = '\\'
    · subst hc
      simp [groupReferences_cons_of_ne]
    · have hplain : (c == '\\') = false := by simpa using hc
      rw [hplain]
      exact groupReferences_cons_of_ne (by simpa using hdollar) _

/-! ### Reading -/

section Read

variable (pattern : NumberedPattern) (rest : List Char)

theorem read_char (c : Char) :
    Template.read pattern ((Fragment.char c).template ++ rest) = do
      return .char c :: (← Template.read pattern rest) := by
  by_cases hc : c = '\\'
  · subst hc
    rw [Fragment.template, if_pos (by decide), List.cons_append, List.cons_append, List.nil_append,
      Template.read]
  · rw [Fragment.template, if_neg (by simpa using hc), List.cons_append, List.nil_append,
      Template.read]
    all_goals simp [hc]

theorem read_reference {name : List Char} (hname : '>' ∉ name) :
    Template.read pattern ((Fragment.reference name).template ++ rest) = do
      let index ← Template.groupIndex pattern name
      return .group index :: (← Template.read pattern rest) := by
  have hplain : ∀ c ∈ name, (c != '>') = true := by
    intro c hc
    simpa using fun heq : c = '>' => hname (heq ▸ hc)
  have htake : (name ++ '>' :: rest).takeWhile (· != '>') = name := by
    rw [List.takeWhile_append_of_pos hplain, List.takeWhile_cons]
    simp
  have hdrop : (name ++ '>' :: rest).dropWhile (· != '>') = '>' :: rest := by
    rw [List.dropWhile_append_of_pos hplain, List.dropWhile_cons]
    simp
  have htemplate : (Fragment.reference name).template ++ rest =
      '\\' :: 'g' :: '<' :: (name ++ '>' :: rest) := by
    simp [Fragment.template, templateReference]
  rw [htemplate, Template.read]
  split
  · rename_i closing rest' htail
    rw [hdrop] at htail
    cases htail
    rw [htake]
  · rename_i htail
    rw [hdrop] at htail
    cases htail

/-- A template is read as its fragments are, one after another. -/
theorem read_flatMap_template (fragments : List Fragment)
    (hnames : ∀ name, .reference name ∈ fragments → '>' ∉ name) :
    Template.read pattern (fragments.flatMap Fragment.template) =
      fragments.mapM (Fragment.piece pattern) := by
  induction fragments with
  | nil => rw [List.flatMap_nil, Template.read, List.mapM_nil]; rfl
  | cons fragment fragments ih =>
    have hrest := ih fun name hname => hnames name (List.mem_cons_of_mem _ hname)
    rw [List.flatMap_cons, List.mapM_cons, ← hrest]
    cases fragment with
    | char c => exact read_char pattern _ c
    | reference name =>
      rw [read_reference pattern _ (hnames name List.mem_cons_self), Fragment.piece]
      cases Template.groupIndex pattern name <;> rfl

end Read

/-- The name of a reference is made of digits, or it stands between braces after a dollar sign. -/
def Spelled (text name : List Char) : Prop :=
  (∀ c ∈ name, Text.isDecimal c = true) ∨
    (∀ c ∈ name, Text.isWordChar c = true) ∧ '$' :: braced name <:+: text

theorem Spelled.of_suffix {text rest name : List Char} (hspelled : Spelled rest name)
    (hsuffix : rest <:+ text) : Spelled text name :=
  hspelled.imp_right fun ⟨hwords, hinfix⟩ => ⟨hwords, hinfix.trans hsuffix.isInfix⟩

theorem spelled_of_mem_ofText {text name : List Char} (hname : .reference name ∈ Fragment.ofText text) :
    name ≠ [] ∧ Spelled text name := by
  induction text using Fragment.ofText.induct with
  | case1 =>
    rw [Fragment.ofText] at hname
    cases hname
  | case2 c rest hdollar digits hdigits name' rest' hfound ih =>
    obtain rfl : c = '$' := by simpa using hdollar
    obtain ⟨hne, hwords, rfl⟩ := bracedName?_eq_some_iff.1 hfound
    rw [Fragment.ofText_dollar, if_pos hdigits, hfound, Option.elim_some, List.mem_cons] at hname
    rcases hname with hsame | hname
    · cases hsame
      exact ⟨hne, .inr ⟨hwords, [], rest', by simp⟩⟩
    · obtain ⟨hne, hspelled⟩ := ih hname
      exact ⟨hne, hspelled.of_suffix ⟨'$' :: braced name', by simp⟩⟩
  | case3 c rest hdollar digits hdigits hnone ih =>
    obtain rfl : c = '$' := by simpa using hdollar
    rw [Fragment.ofText_dollar, if_pos hdigits, hnone, Option.elim_none, List.mem_cons] at hname
    obtain ⟨hne, hspelled⟩ := ih (hname.resolve_left (by simp))
    exact ⟨hne, hspelled.of_suffix (List.suffix_cons _ rest)⟩
  | case4 c rest hdollar digits hdigits ih =>
    obtain rfl : c = '$' := by simpa using hdollar
    rw [Fragment.ofText_dollar, if_neg hdigits, List.mem_cons] at hname
    rcases hname with hsame | hname
    · cases hsame
      exact ⟨by simpa [digits] using hdigits, .inl fun c hc => List.mem_takeWhile_imp hc⟩
    · obtain ⟨hne, hspelled⟩ := ih hname
      exact ⟨hne, hspelled.of_suffix ((List.dropWhile_suffix _).trans (List.suffix_cons _ rest))⟩
  | case5 c rest hdollar ih =>
    rw [Fragment.ofText, if_neg hdollar, List.mem_cons] at hname
    obtain ⟨hne, hspelled⟩ := ih (hname.resolve_left (by simp))
    exact ⟨hne, hspelled.of_suffix (List.suffix_cons _ rest)⟩

/-- A replacement is read as a template the way it is read directly. -/
theorem read_template (pattern : NumberedPattern) (replacement : String) :
    Template.read pattern (template replacement) =
      (Fragment.ofText replacement.toList).mapM (Fragment.piece pattern) := by
  rw [template, groupReferences_escapeBackslashes]
  refine read_flatMap_template pattern _ fun name hname hclosing => ?_
  rcases (spelled_of_mem_ofText hname).2 with hdigits | ⟨hwords, -⟩
  · have hdigit := hdigits _ hclosing
    rw [isDecimal_of_mem_marks (by decide)] at hdigit
    cases hdigit
  · have hword := hwords _ hclosing
    rw [isWordChar_of_mem_marks (by decide)] at hword
    cases hword

/-! ### Groups that are named -/

/-- The replacement of a rule is a text, and every group that it names between braces is one of the
pattern. -/
def CompiledRule.NamesGroups (rule : CompiledRule) : Prop :=
  ∃ replacement, rule.replacement = .text replacement ∧
    ∀ name, Text.isIdentifier name = true → '$' :: braced name <:+: replacement.toList →
      (rule.pattern.names.lookup (String.ofList name)).isSome = true

/-- A group that is not found is named between braces. -/
theorem spelled_of_unknownName {pattern : NumberedPattern} {text name : List Char}
    (hname : .reference name ∈ Fragment.ofText text)
    (hunknown : Template.groupIndex pattern name = .error .unknownName) :
    Text.isIdentifier name = true ∧ '$' :: braced name <:+: text ∧
      pattern.names.lookup (String.ofList name) = none := by
  unfold Template.groupIndex at hunknown
  split at hunknown
  · rename_i hidentifier
    split at hunknown
    · cases hunknown
    · rename_i hlookup
      obtain ⟨hne, hdigits | ⟨-, hinfix⟩⟩ := spelled_of_mem_ofText hname
      · obtain ⟨c, rest, rfl⟩ := List.exists_cons_of_ne_nil hne
        rw [Text.isIdentifier, Text.startsIdentifier_of_isDecimal (hdigits c List.mem_cons_self)]
          at hidentifier
        cases hidentifier
      · exact ⟨hidentifier, hinfix, hlookup⟩
  · split at hunknown
    · split at hunknown <;> cases hunknown
    · cases hunknown

/-- If the groups that a replacement names are there, then it fails as a replacement only. -/
theorem CompiledRule.NamesGroups.error_of_replace {rule : CompiledRule} (hgroups : rule.NamesGroups)
    {space : String} {e : Error} (hreplace : rule.replace space = .error e) :
    ∃ replacement, e = .rejected [] (.invalidReplacement replacement rule.source) := by
  obtain ⟨replacement, htext, hnames⟩ := hgroups
  unfold CompiledRule.replace at hreplace
  rw [htext] at hreplace
  dsimp only at hreplace
  split at hreplace
  · cases hreplace
  · cases hreplace
    exact ⟨replacement, rfl⟩
  · rename_i hunknown
    rw [read_template] at hunknown
    obtain ⟨fragment, hfragment, hfails⟩ := Outcome.exists_of_mapM_eq_error hunknown
    cases fragment with
    | char c => cases hfails
    | reference name =>
      have hindex : Template.groupIndex rule.pattern name = .error .unknownName := by
        rw [Fragment.piece] at hfails
        cases hindex : Template.groupIndex rule.pattern name with
        | ok index =>
          rw [hindex] at hfails
          cases hfails
        | error fault =>
          rw [hindex] at hfails
          cases hfails
          rfl
      obtain ⟨hidentifier, hinfix, hlookup⟩ := spelled_of_unknownName hfragment hindex
      have hsome := hnames name hidentifier hinfix
      rw [hlookup] at hsome
      cases hsome

/-- A namespace that has no answer has a replacement that is at fault. -/
theorem Resolver.Reachable.error_of_answer {resolver : Resolver} (hreachable : resolver.Reachable)
    (hgroups : ∀ rule ∈ resolver.rules, rule.NamesGroups) {space : String} {e : Error}
    (hanswer : resolver.answer space = .error e) : ∃ defect, e = .rejected [] defect := by
  rw [hreachable.answer_eq_resolve] at hanswer
  unfold Namespace.resolve at hanswer
  dsimp only at hanswer
  split at hanswer
  · rename_i rule hfind
    cases hreplace : rule.replace (orGlobal (orGlobal space)) with
    | ok replaced =>
      rw [hreplace] at hanswer
      cases hanswer
    | error failure =>
      rw [hreplace] at hanswer
      cases hanswer
      obtain ⟨replacement, rfl⟩ :=
        (hgroups rule (List.mem_of_find?_eq_some hfind)).error_of_replace hreplace
      exact ⟨_, rfl⟩
  · cases hanswer

end ScriptBridge.Namespace
