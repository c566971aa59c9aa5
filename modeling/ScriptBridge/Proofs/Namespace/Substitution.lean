import ScriptBridge.Proofs.Namespace.Replacement

/-!
# What is put in the place of a match

A replacement reads from left to right. A dollar sign with digits after it, or with a name between
braces, is the text of the group that it refers to; every other character is itself, backslashes and
other dollar signs too. The template that a replacement is turned into expands to the same text.
-/

namespace ScriptBridge.Namespace

open IntegerLiteral (Numeral digitCount digitCount_paddedOne numeral_paddedOne paddedOne)

/-! ### References -/

/-- The group that a pattern has by a name or a number. -/
inductive Refers (pattern : NumberedPattern) (name : List Char) : Nat → Prop
  | named {index : Nat} :
    Text.isIdentifier name = true → pattern.names.lookup (String.ofList name) = some index →
    Refers pattern name index
  | numbered {index : Nat} : Numeral name index → index ≤ pattern.groupCount →
    Refers pattern name index

theorem Refers.unique {pattern : NumberedPattern} {name : List Char} {index other : Nat}
    (hrefers : Refers pattern name index) (hother : Refers pattern name other) : index = other := by
  cases hrefers with
  | named hidentifier hlookup =>
    cases hother with
    | named _ hlookup' => exact Option.some.inj (hlookup.symm.trans hlookup')
    | numbered hnumeral _ => cases hidentifier.symm.trans hnumeral.not_isIdentifier
  | numbered hnumeral _ =>
    cases hother with
    | named hidentifier _ => cases hidentifier.symm.trans hnumeral.not_isIdentifier
    | numbered hnumeral' _ => exact hnumeral.unique hnumeral'

/-- A reference is found by its name, or by its number if that does not have too many digits. -/
theorem Refers.groupIndex_eq {pattern : NumberedPattern} {name : List Char} {index : Nat}
    (hrefers : Refers pattern name index)
    (hshort : ∀ number, Numeral name number → digitCount name ≤ IntegerLiteral.digitLimit) :
    Template.groupIndex pattern name = .ok index := by
  unfold Template.groupIndex
  cases hrefers with
  | named hidentifier hlookup => rw [if_pos hidentifier, hlookup]
  | numbered hnumeral hcount =>
    rw [hnumeral.not_isIdentifier, if_neg Bool.false_ne_true, hnumeral.value?_eq,
      if_neg (Nat.not_lt.2 (hshort _ hnumeral))]
    exact if_pos hcount

/-- A text starts with a reference: a dollar sign and all the digits after it, or a name between braces
after it. -/
inductive Reference (isDigit : Char → Bool) : (text name rest : List Char) → Prop
  | digits {digits rest : List Char} :
    digits ≠ [] → (∀ c ∈ digits, isDigit c = true) → (∀ c ∈ rest.head?, isDigit c = false) →
    Reference isDigit ('$' :: (digits ++ rest)) digits rest
  | name {name rest : List Char} :
    name ≠ [] → (∀ c ∈ name, Text.isWordChar c = true) →
    Reference isDigit ('$' :: (braced name ++ rest)) name rest

/-- The reference that a text starts with. -/
def reference? : List Char → Option (List Char × List Char)
  | '$' :: body =>
    let digits := body.takeWhile Text.isDecimal
    if digits.isEmpty then bracedName? body else some (digits, body.dropWhile Text.isDecimal)
  | _ => none

theorem reference_iff {text name rest : List Char} :
    Reference Text.isDecimal text name rest ↔ reference? text = some (name, rest) := by
  constructor
  · intro hreference
    cases hreference with
    | @digits digits _ hne hdigits hstop =>
      have htake : (name ++ rest).takeWhile Text.isDecimal = name :=
        Text.takeWhile_append_of_stop hdigits hstop
      have hdrop : (name ++ rest).dropWhile Text.isDecimal = rest :=
        Text.dropWhile_append_of_stop hdigits hstop
      simp [reference?, htake, hdrop, hne]
    | name hne hwords =>
      have hopening : Text.isDecimal '\x7b' = false := isDecimal_of_mem_marks (by decide)
      have htake : (braced name ++ rest).takeWhile Text.isDecimal = [] := by
        simp [braced, hopening]
      simp only [reference?, htake, List.isEmpty_nil, if_true]
      exact bracedName?_eq_some_iff.2 ⟨hne, hwords, rfl⟩
  · intro hfound
    unfold reference? at hfound
    split at hfound
    · rename_i body
      dsimp only at hfound
      split at hfound
      · obtain ⟨hne, hwords, rfl⟩ := bracedName?_eq_some_iff.1 hfound
        exact .name hne hwords
      · rename_i hdigits
        cases hfound
        have hreference : Reference Text.isDecimal
            ('$' :: (body.takeWhile Text.isDecimal ++ body.dropWhile Text.isDecimal))
            (body.takeWhile Text.isDecimal) (body.dropWhile Text.isDecimal) :=
          .digits (by simpa using hdigits) (fun c hc => List.mem_takeWhile_imp hc)
            (Text.stop_dropWhile body)
        rwa [List.takeWhile_append_dropWhile] at hreference
    · cases hfound

/-! ### Reading from left to right -/

/-- A text mentions a reference somewhere. -/
def HasReference (isDigit : Char → Bool) (text name : List Char) : Prop :=
  ∃ start rest, start <:+ text ∧ Reference isDigit start name rest

/-- What a replacement is for a match: every reference is the text of its group, and every character
where no reference starts is itself. -/
inductive Reads (isDigit : Char → Bool) (pattern : NumberedPattern) (found : Pattern.Found) :
    (replacement result : List Char) → Prop
  | done : Reads isDigit pattern found [] []
  | reference {text name rest result : List Char} {index : Nat} :
    Reference isDigit text name rest → Refers pattern name index →
    Reads isDigit pattern found rest result →
    Reads isDigit pattern found text (found.group index ++ result)
  | char {c : Char} {rest result : List Char} :
    (∀ name rest', ¬ Reference isDigit (c :: rest) name rest') →
    Reads isDigit pattern found rest result →
    Reads isDigit pattern found (c :: rest) (c :: result)

theorem Fragment.ofText_reference {text name rest : List Char}
    (hreference : Reference Text.isDecimal text name rest) :
    ofText text = .reference name :: ofText rest := by
  have hfound := reference_iff.1 hreference
  unfold reference? at hfound
  split at hfound
  · dsimp only at hfound
    rw [Fragment.ofText_dollar]
    split at hfound
    · rename_i hdigits
      rw [if_pos hdigits, hfound]
      rfl
    · rename_i hdigits
      cases hfound
      rw [if_neg hdigits]
  · cases hfound

theorem Fragment.ofText_char {c : Char} {rest : List Char}
    (hnone : ∀ name rest', ¬ Reference Text.isDecimal (c :: rest) name rest') :
    ofText (c :: rest) = .char c :: ofText rest := by
  have hfound : reference? (c :: rest) = none := by
    refine Option.eq_none_iff_forall_not_mem.2 fun ⟨name, rest'⟩ hfound => ?_
    exact hnone name rest' (reference_iff.2 hfound)
  by_cases hc : c = '$'
  · subst hc
    simp only [reference?] at hfound
    rw [Fragment.ofText_dollar]
    split at hfound
    · rename_i hdigits
      rw [if_pos hdigits, hfound]
      rfl
    · cases hfound
  · rw [ofText, if_neg (by simpa using hc)]

theorem Reference.length_lt {isDigit : Char → Bool} {text name rest : List Char}
    (hreference : Reference isDigit text name rest) : rest.length < text.length := by
  cases hreference <;> simp only [List.length_cons, List.length_append] <;> omega

theorem Reference.suffix {isDigit : Char → Bool} {text name rest : List Char}
    (hreference : Reference isDigit text name rest) : rest <:+ text := by
  cases hreference with
  | digits => exact ⟨'$' :: name, rfl⟩
  | name => exact ⟨'$' :: braced name, rfl⟩

theorem Reference.unique {text name other rest rest' : List Char}
    (hreference : Reference Text.isDecimal text name rest)
    (hother : Reference Text.isDecimal text other rest') : name = other ∧ rest = rest' :=
  Prod.mk.inj (Option.some.inj ((reference_iff.1 hreference).symm.trans (reference_iff.1 hother)))

/-- Induction along the references of a text. -/
theorem induction_on_references (isDigit : Char → Bool) {motive : List Char → Prop}
    (done : motive [])
    (reference : ∀ text name rest, Reference isDigit text name rest → motive rest → motive text)
    (char : ∀ c rest, (∀ name rest', ¬ Reference isDigit (c :: rest) name rest') → motive rest →
      motive (c :: rest)) (text : List Char) : motive text := by
  induction hlength : text.length using Nat.strong_induction_on generalizing text with
  | h length ih =>
    subst hlength
    cases text with
    | nil => exact done
    | cons c rest =>
      by_cases hstarts : ∃ name rest', Reference isDigit (c :: rest) name rest'
      · obtain ⟨name, rest', hreference⟩ := hstarts
        exact reference _ name rest' hreference (ih _ hreference.length_lt rest' rfl)
      · exact char c rest (fun name rest' hreference => hstarts ⟨name, rest', hreference⟩)
          (ih _ (Nat.lt_succ_self _) rest rfl)

theorem HasReference.of_suffix {isDigit : Char → Bool} {text rest name : List Char}
    (hmentions : HasReference isDigit rest name) (hsuffix : rest <:+ text) :
    HasReference isDigit text name := by
  obtain ⟨start, after, hstart, hreference⟩ := hmentions
  exact ⟨start, after, hstart.trans hsuffix, hreference⟩

/-- Nothing within a reference starts another one: digits and names have no dollar signs. -/
theorem Reference.suffix_cases {isDigit : Char → Bool} (hdollar : isDigit '$' = false)
    {text name rest start : List Char} (hreference : Reference isDigit text name rest)
    (hstart : start <:+ text) (hhead : start.head? = some '$') : start = text ∨ start <:+ rest := by
  obtain ⟨body, htext, hbody⟩ : ∃ body, text = '$' :: (body ++ rest) ∧ '$' ∉ body := by
    cases hreference with
    | digits _ hdigits _ =>
      refine ⟨name, rfl, fun hmem => ?_⟩
      cases (hdigits '$' hmem).symm.trans hdollar
    | name _ hwords =>
      refine ⟨braced name, rfl, fun hmem => ?_⟩
      have hmem : '$' ∈ name := by simpa [braced] using hmem
      cases (hwords '$' hmem).symm.trans (isWordChar_of_mem_marks (by decide))
  subst htext
  rcases List.suffix_cons_iff.1 hstart with hsame | hinner
  · exact .inl hsame
  · refine .inr ((List.suffix_or_suffix_of_suffix hinner (List.suffix_append body rest)).elim id ?_)
    rintro ⟨front, rfl⟩
    cases front with
    | nil => exact List.suffix_refl rest
    | cons c front =>
      obtain rfl : c = '$' := Option.some.inj hhead
      obtain ⟨lead, hlead⟩ := hinner
      rw [← List.append_assoc, List.append_cancel_right_eq] at hlead
      exact absurd (hlead ▸ List.mem_append_right lead List.mem_cons_self) hbody

theorem Reference.head?_eq {isDigit : Char → Bool} {text name rest : List Char}
    (hreference : Reference isDigit text name rest) : text.head? = some '$' := by
  cases hreference <;> rfl

/-- The references of a text are those that are met when it is read from left to right. -/
theorem hasReference_iff {text name : List Char} :
    HasReference Text.isDecimal text name ↔ .reference name ∈ Fragment.ofText text := by
  induction text using induction_on_references Text.isDecimal with
  | done =>
    rw [Fragment.ofText]
    refine ⟨fun hmentions => ?_, fun hname => by cases hname⟩
    obtain ⟨start, rest, hstart, hreference⟩ := hmentions
    rw [List.suffix_nil.1 hstart] at hreference
    cases hreference
  | reference text name' rest hreference ih =>
    rw [Fragment.ofText_reference hreference, List.mem_cons, ← ih]
    constructor
    · rintro ⟨start, after, hstart, hother⟩
      rcases hreference.suffix_cases (isDecimal_of_mem_marks (by decide)) hstart
        hother.head?_eq with rfl | hinner
      · exact .inl (congrArg _ (hother.unique hreference).1)
      · exact .inr ⟨start, after, hinner, hother⟩
    · rintro (hsame | hmentions)
      · cases hsame
        exact ⟨text, rest, List.suffix_refl text, hreference⟩
      · exact hmentions.of_suffix hreference.suffix
  | char c rest hnone ih =>
    rw [Fragment.ofText_char hnone, List.mem_cons, ← ih]
    constructor
    · rintro ⟨start, after, hstart, hother⟩
      rcases List.suffix_cons_iff.1 hstart with rfl | hinner
      · exact absurd hother (hnone name after)
      · exact .inr ⟨start, after, hinner, hother⟩
    · rintro (hsame | hmentions)
      · cases hsame
      · exact hmentions.of_suffix (List.suffix_cons c rest)

/-- A replacement has one reading. -/
theorem Reads.unique {pattern : NumberedPattern} {found : Pattern.Found}
    {text result other : List Char} (hreads : Reads Text.isDecimal pattern found text result)
    (hother : Reads Text.isDecimal pattern found text other) : result = other := by
  induction hreads generalizing other with
  | done =>
    cases hother with
    | done => rfl
    | reference hreference _ _ => cases hreference
  | reference hreference hrefers _ ih =>
    cases hother with
    | done => cases hreference
    | reference hreference' hrefers' hrest =>
      obtain ⟨rfl, rfl⟩ := hreference.unique hreference'
      rw [hrefers.unique hrefers', ih hrest]
    | char hnone _ => exact absurd hreference (hnone _ _)
  | char hnone _ ih =>
    cases hother with
    | reference hreference _ _ => exact absurd hreference (hnone _ _)
    | char _ hrest => rw [ih hrest]

/-- The pieces of a replacement expand to what it reads as, if every reference is found. -/
theorem exists_pieces {pattern : NumberedPattern} {text : List Char}
    (hgroups : ∀ name, .reference name ∈ Fragment.ofText text →
      ∃ index, Refers pattern name index ∧ Template.groupIndex pattern name = .ok index) :
    ∃ pieces, (Fragment.ofText text).mapM (Fragment.piece pattern) = .ok pieces ∧
      ∀ found, Reads Text.isDecimal pattern found text (Template.expand pieces found) := by
  induction text using induction_on_references Text.isDecimal with
  | done => exact ⟨[], by rw [Fragment.ofText, List.mapM_nil]; rfl, fun found => .done⟩
  | reference text name rest hreference ih =>
    rw [Fragment.ofText_reference hreference] at hgroups ⊢
    obtain ⟨index, hrefers, hindex⟩ := hgroups name List.mem_cons_self
    obtain ⟨pieces, hpieces, hreads⟩ := ih fun name hname =>
      hgroups name (List.mem_cons_of_mem _ hname)
    refine ⟨.group index :: pieces, ?_, fun found => .reference hreference hrefers (hreads found)⟩
    rw [List.mapM_cons, Fragment.piece, hindex, hpieces]
    rfl
  | char c rest hnone ih =>
    rw [Fragment.ofText_char hnone] at hgroups ⊢
    obtain ⟨pieces, hpieces, hreads⟩ := ih fun name hname =>
      hgroups name (List.mem_cons_of_mem _ hname)
    refine ⟨.char c :: pieces, ?_, fun found => .char hnone (hreads found)⟩
    rw [List.mapM_cons, Fragment.piece, hpieces]
    rfl

/-- A replacement whose references are all to groups of the pattern, by numbers that are not too long,
is put in the place of a match as it reads. -/
theorem template_expands_as_read {rule : CompiledRule} {replacement : String}
    (htext : rule.replacement = .text replacement)
    (hrefers : ∀ name, HasReference Text.isDecimal replacement.toList name →
      ∃ index, Refers rule.pattern name index)
    (hshort : ∀ name number, HasReference Text.isDecimal replacement.toList name →
      Numeral name number → digitCount name ≤ IntegerLiteral.digitLimit) :
    ∃ pieces, Template.read rule.pattern (template replacement) = .ok pieces ∧
      (∀ found result, Reads Text.isDecimal rule.pattern found replacement.toList result ↔
        result = Template.expand pieces found) ∧
      ∀ space, rule.replace space = .ok (String.ofList
        (rule.pattern.pattern.replaceAll (Template.expand pieces) space.toList)) := by
  have hgroups : ∀ name, .reference name ∈ Fragment.ofText replacement.toList →
      ∃ index, Refers rule.pattern name index ∧ Template.groupIndex rule.pattern name = .ok index := by
    intro name hname
    have hmentions := hasReference_iff.2 hname
    obtain ⟨index, hindex⟩ := hrefers name hmentions
    exact ⟨index, hindex, hindex.groupIndex_eq fun number => hshort name number hmentions⟩
  obtain ⟨pieces, hpieces, hreads⟩ := exists_pieces hgroups
  have hread : Template.read rule.pattern (template replacement) = .ok pieces := by
    rw [read_template, hpieces]
  refine ⟨pieces, hread, fun found result => ⟨fun hresult => hresult.unique (hreads found), ?_⟩,
    fun space => ?_⟩
  · rintro rfl
    exact hreads found
  · rw [CompiledRule.replace, htext]
    dsimp only
    rw [hread]

/-- A backslash, a dollar sign before a reference, and dollar signs that start none. -/
def mixedReplacement : String := "\\$$1$\x7bcore\x7d$2$ $\x7b\x7d\\"

def coreRule : CompiledRule where
  source := "(?P<core>o+)(x)?"
  pattern :=
    { pattern :=
        .seq (.group 1 (.repeated (.charIn ⟨false, [.single 111]⟩ ⟨false, false⟩) 1 none .greedy))
          (.repeated (.group 2 (.charIn ⟨false, [.single 120]⟩ ⟨false, false⟩)) 0 (some 1) .greedy)
      groupCount := 2
      names := [("core", 1)] }
  replacement := .text mixedReplacement

theorem ofText_mixedReplacement :
    Fragment.ofText mixedReplacement.toList =
      [.char '\\', .char '$', .reference ['1'], .reference ['c', 'o', 'r', 'e'], .reference ['2'],
        .char '$', .char ' ', .char '$', .char '\x7b', .char '\x7d', .char '\\'] := by
  decide +kernel

theorem hasReference_mixedReplacement {name : List Char} :
    HasReference Text.isDecimal mixedReplacement.toList name ↔
      name ∈ [['1'], ['c', 'o', 'r', 'e'], ['2']] := by
  rw [hasReference_iff, ofText_mixedReplacement]
  simp

/-- The second group takes no part in the first match, and its reference is nothing there. -/
theorem core_expands_as_read :
    CompiledRule.ofRule ⟨.text "(?P<core>o+)(x)?", .text mixedReplacement⟩ = .ok coreRule ∧
      coreRule.replacement = .text mixedReplacement ∧
      (∀ name, HasReference Text.isDecimal mixedReplacement.toList name →
        ∃ index, Refers coreRule.pattern name index) ∧
      (∃ pieces, Template.read coreRule.pattern (template mixedReplacement) = .ok pieces ∧
        (∀ found result, Reads Text.isDecimal coreRule.pattern found mixedReplacement.toList result ↔
          result = Template.expand pieces found) ∧
        ∀ space, coreRule.replace space = .ok (String.ofList
          (coreRule.pattern.pattern.replaceAll (Template.expand pieces) space.toList))) ∧
      coreRule.replace "foobox" = .ok "f\\$oooo$ $\x7b\x7d\\b\\$oox$ $\x7b\x7d\\" := by
  have hrefers : ∀ name, HasReference Text.isDecimal mixedReplacement.toList name →
      ∃ index, Refers coreRule.pattern name index := by
    intro name hname
    rcases (by simpa using hasReference_mixedReplacement.1 hname :
      name = ['1'] ∨ name = ['c', 'o', 'r', 'e'] ∨ name = ['2']) with rfl | rfl | rfl
    · exact ⟨1, .numbered (.digit rfl) (by decide)⟩
    · exact ⟨1, .named (by decide) (by decide)⟩
    · exact ⟨2, .numbered (.digit rfl) (by decide)⟩
  have hshort : ∀ name number, HasReference Text.isDecimal mixedReplacement.toList name →
      Numeral name number → digitCount name ≤ IntegerLiteral.digitLimit := by
    intro name number hname _
    have hlengths : ∀ name ∈ [['1'], ['c', 'o', 'r', 'e'], ['2']],
        digitCount name ≤ IntegerLiteral.digitLimit := by decide
    exact hlengths name (hasReference_mixedReplacement.1 hname)
  obtain ⟨hcompiled, hreplaced⟩ : CompiledRule.ofRule ⟨.text "(?P<core>o+)(x)?", .text mixedReplacement⟩ =
      .ok coreRule ∧ coreRule.replace "foobox" =
        .ok "f\\$oooo$ $\x7b\x7d\\b\\$oox$ $\x7b\x7d\\" := by
    decide +kernel
  exact ⟨hcompiled, rfl, hrefers, template_expands_as_read rfl hrefers hshort, hreplaced⟩

/-! ### References that are not read so

A number may be too long to be read, digits of other scripts are digits, and a name between braces has
to consist of word characters. -/

section Congr

variable {isDigit isDigit' : Char → Bool} {text name rest : List Char}

theorem Reference.congr (hsame : ∀ c ∈ text, isDigit c = isDigit' c)
    (hreference : Reference isDigit text name rest) : Reference isDigit' text name rest := by
  cases hreference with
  | digits hne hdigits hstop =>
    refine .digits hne (fun c hc => ?_) fun c hc => ?_
    · rw [← hsame c (by simp [hc]), hdigits c hc]
    · rw [← hsame c (by simp [List.mem_of_mem_head? hc]), hstop c hc]
  | name hne hwords => exact .name hne hwords

theorem HasReference.congr (hsame : ∀ c ∈ text, isDigit c = isDigit' c)
    (hmentions : HasReference isDigit text name) : HasReference isDigit' text name := by
  obtain ⟨start, rest, hstart, hreference⟩ := hmentions
  exact ⟨start, rest, hstart, hreference.congr fun c hc => hsame c (hstart.mem hc)⟩

/-- What comes after the dollar sign of a reference. -/
theorem Reference.next {c : Char} (hreference : Reference isDigit ('$' :: c :: text) name rest) :
    isDigit c = true ∨ c = '\x7b' := by
  generalize hstart : '$' :: c :: text = start at hreference
  cases hreference with
  | digits hne hdigits _ =>
    obtain ⟨d, others, rfl⟩ := List.exists_cons_of_ne_nil hne
    obtain ⟨rfl, -⟩ := List.cons.inj (List.cons.inj hstart).2
    exact .inl (hdigits c List.mem_cons_self)
  | name => exact .inr (List.cons.inj (List.cons.inj hstart).2).1

end Congr

/-- A reference by a number with too many digits is refused. -/
theorem CompiledRule.replace_of_long {rule : CompiledRule} {replacement : String}
    {numeral : List Char} {number : Nat} (htext : rule.replacement = .text replacement)
    (hfragments : Fragment.ofText replacement.toList = [.reference numeral])
    (hnumeral : Numeral numeral number) (hlong : IntegerLiteral.digitLimit < digitCount numeral)
    (space : String) :
    rule.replace space = .error (.rejected [] (.invalidReplacement replacement rule.source)) := by
  have hindex : Template.groupIndex rule.pattern numeral = .error .malformed := by
    unfold Template.groupIndex
    rw [hnumeral.not_isIdentifier, if_neg Bool.false_ne_true, hnumeral.value?_eq, if_pos hlong]
  have hread : Template.read rule.pattern (template replacement) = .error .malformed := by
    rw [read_template, hfragments, List.mapM_cons, Fragment.piece, hindex]
    rfl
  rw [CompiledRule.replace, htext]
  dsimp only
  rw [hread]

/-- A reference to the first group, by a number with one digit too many. -/
def paddedReference : String :=
  String.ofList ('$' :: paddedOne IntegerLiteral.digitLimit)

theorem isDigit_paddedReference :
    ∀ c ∈ paddedReference.toList, Char.isDigit c = Text.isDecimal c := by
  intro c hc
  rw [paddedReference, String.toList_ofList, paddedOne, List.mem_cons, List.mem_append,
    List.mem_replicate, List.mem_singleton] at hc
  rcases hc with rfl | ⟨-, rfl⟩ | rfl <;> rfl

theorem reference_paddedReference :
    Reference Text.isDecimal paddedReference.toList (paddedOne IntegerLiteral.digitLimit) [] := by
  have hdigits : ∀ c ∈ paddedOne IntegerLiteral.digitLimit, Text.isDecimal c = true := by
    intro c hc
    rcases (numeral_paddedOne _).isDecimal_or_mark c hc with hdigit | rfl
    · exact hdigit
    · simp [paddedOne] at hc
  have hreference : Reference Text.isDecimal ('$' :: (paddedOne IntegerLiteral.digitLimit ++ []))
      (paddedOne IntegerLiteral.digitLimit) [] :=
    .digits (by simp [paddedOne]) hdigits (by simp)
  rwa [List.append_nil, ← String.toList_ofList (l := '$' :: _)] at hreference

theorem ofText_paddedReference :
    Fragment.ofText paddedReference.toList = [.reference (paddedOne IntegerLiteral.digitLimit)] := by
  rw [Fragment.ofText_reference reference_paddedReference, Fragment.ofText]

def circleRule (replacement : String) : CompiledRule where
  source := "(o)"
  pattern :=
    { pattern := .group 1 (.charIn ⟨false, [.single 111]⟩ ⟨false, false⟩)
      groupCount := 1
      names := [] }
  replacement := .text replacement

/-- Whatever its replacement is, the rule is read, and it applies where there is an `o`. -/
theorem circleRule_applies (replacement : String) :
    CompiledRule.ofRule ⟨.text "(o)", .text replacement⟩ = .ok (circleRule replacement) ∧
      (circleRule replacement).applies "foo" = true := by
  obtain ⟨hread, happlies⟩ : NumberedPattern.read "(o)" = .ok (circleRule "").pattern ∧
      (circleRule "").applies "foo" = true := by
    decide +kernel
  refine ⟨?_, happlies⟩
  rw [CompiledRule.ofRule]
  dsimp only
  rw [hread]
  rfl

/-- Digits of another script after a dollar sign. -/
def foreignReference : String := "$\u0661"

/-- A pattern whose group has a name that is not made of word characters. -/
def dottedRule : CompiledRule where
  source := "(?P<a\u00b7b>o)"
  pattern :=
    { pattern := .group 1 (.charIn ⟨false, [.single 111]⟩ ⟨false, false⟩)
      groupCount := 1
      names := [("a\u00b7b", 1)] }
  replacement := .text "$\x7ba\u00b7b\x7d"

theorem not_hasReference_foreignReference (name : List Char) :
    ¬ HasReference Char.isDigit foreignReference.toList name := by
  rintro ⟨start, rest, hstart, hreference⟩
  have hhead := hreference.head?_eq
  rcases List.suffix_cons_iff.1 (show start <:+ '$' :: ['\u0661'] from hstart) with rfl | hstart
  · exact hreference.next.elim (by decide) (by decide)
  · rcases List.suffix_cons_iff.1 hstart with rfl | hstart
    · exact absurd hhead (by decide)
    · rw [List.suffix_nil.1 hstart] at hhead
      cases hhead

theorem reads_foreignReference (pattern : NumberedPattern) (found : Pattern.Found) :
    Reads Char.isDigit pattern found foreignReference.toList foreignReference.toList := by
  have hchars : foreignReference.toList = ['$', '\u0661'] := by decide
  rw [hchars]
  refine .char (fun name rest hreference => ?_) (.char (fun name rest hreference => ?_) .done)
  · exact not_hasReference_foreignReference name ⟨_, rest, hchars ▸ List.suffix_refl _, hreference⟩
  · exact absurd hreference.head?_eq (by decide)

/-- With ASCII digits only, a reference to the first group is refused for its leading zeros, and an
Arabic digit, which is no reference, refers to the first group. A group whose name is not made of word
characters is not referred to by its name. -/
theorem references_not_as_read :
    (CompiledRule.ofRule ⟨.text "(o)", .text paddedReference⟩ = .ok (circleRule paddedReference) ∧
      (circleRule paddedReference).applies "foo" = true ∧
      (∀ name, HasReference Char.isDigit paddedReference.toList name →
        Refers (circleRule paddedReference).pattern name 1) ∧
      (∀ found, Reads Char.isDigit (circleRule paddedReference).pattern found paddedReference.toList
        (found.group 1 ++ [])) ∧
      (circleRule paddedReference).replace "foo" =
        .error (.rejected [] (.invalidReplacement paddedReference "(o)"))) ∧
    (CompiledRule.ofRule ⟨.text "(o)", .text foreignReference⟩ = .ok (circleRule foreignReference) ∧
      (∀ name, ¬ HasReference Char.isDigit foreignReference.toList name) ∧
      (∀ found, Reads Char.isDigit (circleRule foreignReference).pattern found
        foreignReference.toList foreignReference.toList) ∧
      (circleRule foreignReference).replace "foo" = .ok "foo") ∧
    (CompiledRule.ofRule ⟨.text dottedRule.source, dottedRule.replacement⟩ = .ok dottedRule ∧
      dottedRule.pattern.names.lookup "a\u00b7b" = some 1 ∧
      dottedRule.replace "foo" = .ok "f$\x7ba\u00b7b\x7d$\x7ba\u00b7b\x7d") := by
  have hone : Refers (circleRule paddedReference).pattern (paddedOne IntegerLiteral.digitLimit) 1 :=
    .numbered (numeral_paddedOne _) le_rfl
  have hlong : IntegerLiteral.digitLimit < digitCount (paddedOne IntegerLiteral.digitLimit) := by
    rw [digitCount_paddedOne]
    exact Nat.lt_succ_self _
  refine ⟨⟨(circleRule_applies _).1, (circleRule_applies _).2, fun name hname => ?_, fun found => ?_, ?_⟩,
    ⟨(circleRule_applies _).1, not_hasReference_foreignReference, reads_foreignReference _,
      by decide +kernel⟩, by decide +kernel⟩
  · have hmem := hasReference_iff.1 (hname.congr isDigit_paddedReference)
    rw [ofText_paddedReference, List.mem_singleton] at hmem
    cases hmem
    exact hone
  · exact .reference (reference_paddedReference.congr fun c hc => (isDigit_paddedReference c hc).symm)
      hone .done
  · exact CompiledRule.replace_of_long rfl ofText_paddedReference (numeral_paddedOne _) hlong "foo"

end ScriptBridge.Namespace
