import ScriptBridge.Number.IntegerLiteral
import ScriptBridge.Proofs.Text.Runs
import ScriptBridge.Text.Identifier

/-!
# Numbers

Digits of any script make a number, and single underscores may stand between them. A text of such digits,
with a sign before them and blanks around, is read as it is written, unless it has too many digits. A number
is never an identifier.
-/

namespace ScriptBridge

/-! ### Digits -/

namespace Text

/-- Letters, what else an identifier starts with, and white space. -/
def undigitRuns : List CodeRun :=
  alphabeticRuns ++ initialRuns ++ blankRuns

/-- No run of these has a digit of a script. -/
theorem digits_apart : (decimalZeros.all fun start => undigitRuns.all fun run =>
    run.last.blt start || (start + 9).blt run.first) = true := by
  decide +kernel

theorem covers_of_isDecimal {table : List CodeRun} (htable : table ⊆ undigitRuns) {c : Char}
    (hc : isDecimal c = true) : CodeRun.covers table c = false := by
  rw [isDecimal, decimalValue?, Option.isSome_map, List.find?_isSome] at hc
  obtain ⟨start, hstart, hrange⟩ := hc
  rw [CodeRun.covers, List.any_eq_false]
  intro run hrun hcontains
  have hapart := List.all_eq_true.1 (List.all_eq_true.1 digits_apart start hstart) run (htable hrun)
  simp only [Bool.and_eq_true, decide_eq_true_eq] at hrange
  simp only [CodeRun.contains, Bool.and_eq_true, decide_eq_true_eq] at hcontains
  simp only [Bool.or_eq_true, Nat.blt_eq] at hapart
  omega

theorem ne_of_isDecimal {c mark : Char} (hc : isDecimal c = true) (hmark : isDecimal mark = false) :
    c ≠ mark := by
  rintro rfl
  rw [hmark] at hc
  cases hc

theorem startsIdentifier_of_isDecimal {c : Char} (hc : isDecimal c = true) :
    startsIdentifier c = false := by
  have hletter : isAlphabetic c = false := covers_of_isDecimal (by simp [undigitRuns]) hc
  have hinitial : CodeRun.covers initialRuns c = false := covers_of_isDecimal (by simp [undigitRuns]) hc
  have hunderscore : (c == '_') = false := beq_false_of_ne (ne_of_isDecimal hc rfl)
  rw [startsIdentifier, hunderscore, hletter, hinitial]
  rfl

end Text

/-! ### Numerals -/

namespace IntegerLiteral

/-- Digits of any script, between two of which one underscore may stand, and their value. -/
inductive Numeral : List Char → Nat → Prop
  | digit {c : Char} {value : Nat} : Text.decimalValue? c = some value → Numeral [c] value
  | longer {digits mark : List Char} {number value : Nat} {c : Char} :
    Numeral digits number → mark = [] ∨ mark = ['_'] → Text.decimalValue? c = some value →
    Numeral (digits ++ (mark ++ [c])) (10 * number + value)

/-- How many digits a number is written with. -/
def digitCount (numeral : List Char) : Nat :=
  (numeral.filter (· != '_')).length

theorem isOuterBlank_of_isDecimal {c : Char} (hc : Text.isDecimal c = true) :
    isOuterBlank c = false := by
  have hblank : Text.isBlank c = false := Text.covers_of_isDecimal (by simp [Text.undigitRuns]) hc
  have hplain : isPlainBlank c = false := by
    refine Bool.eq_false_iff.2 fun hplain => ?_
    rw [isPlainBlank, Bool.or_eq_true, beq_iff_eq] at hplain
    rcases hplain with rfl | hplain
    · cases hblank
    · simp only [Bool.and_eq_true, decide_eq_true_eq] at hplain
      simp [Text.isBlank, Text.CodeRun.covers, Text.blankRuns, Text.CodeRun.contains] at hblank
      omega
  rw [isOuterBlank, hblank, hplain, ite_self]

theorem go_append {value result : Nat} {afterMark : Bool} {digits : List Char}
    (hgo : digitsValue?.go value afterMark digits = some result) (more : List Char) :
    digitsValue?.go value afterMark (digits ++ more) =
      digitsValue?.go result false more := by
  induction digits generalizing value afterMark with
  | nil =>
    rw [digitsValue?.go] at hgo
    split at hgo
    · cases hgo
    · rename_i hmark
      cases hgo
      rw [List.nil_append, Bool.eq_false_iff.2 hmark]
  | cons c rest ih =>
    rw [digitsValue?.go] at hgo
    rw [List.cons_append, digitsValue?.go]
    by_cases hc : (c == '_') = true
    · rw [if_pos hc] at hgo ⊢
      cases afterMark with
      | true => cases hgo
      | false => exact ih hgo
    · rw [if_neg hc] at hgo ⊢
      cases hvalue : Text.decimalValue? c with
      | none =>
        rw [hvalue] at hgo
        cases hgo
      | some digit =>
        rw [hvalue] at hgo
        exact ih hgo

theorem go_digit {c : Char} {value : Nat} (hvalue : Text.decimalValue? c = some value) (number : Nat)
    (afterMark : Bool) :
    digitsValue?.go number afterMark [c] = some (10 * number + value) := by
  have hc : Text.isDecimal c = true := by
    rw [Text.isDecimal, hvalue]
    rfl
  have hmark : ¬ (c == '_') = true := by
    rw [beq_iff_eq]
    exact Text.ne_of_isDecimal hc rfl
  rw [digitsValue?.go, if_neg hmark, hvalue]
  rfl

namespace Numeral

variable {numeral : List Char} {number : Nat}

theorem next (hnumeral : Numeral numeral number) {c : Char} {value : Nat}
    (hvalue : Text.decimalValue? c = some value) : Numeral (numeral ++ [c]) (10 * number + value) :=
  hnumeral.longer (.inl rfl) hvalue

theorem go (hnumeral : Numeral numeral number) :
    digitsValue?.go 0 false numeral = some number := by
  induction hnumeral with
  | digit hvalue => simpa using go_digit hvalue 0 false
  | longer _ hmark hvalue ih =>
    rw [go_append ih]
    rcases hmark with rfl | rfl
    · exact go_digit hvalue _ false
    · exact go_digit hvalue _ true

theorem exists_cons (hnumeral : Numeral numeral number) :
    ∃ c rest, numeral = c :: rest ∧ Text.isDecimal c = true := by
  induction hnumeral with
  | digit hvalue => exact ⟨_, [], rfl, by rw [Text.isDecimal, hvalue]; rfl⟩
  | longer _ _ _ ih =>
    obtain ⟨c, rest, rfl, hc⟩ := ih
    exact ⟨c, _, rfl, hc⟩

theorem isDecimal_or_mark (hnumeral : Numeral numeral number) :
    ∀ c ∈ numeral, Text.isDecimal c = true ∨ c = '_' := by
  induction hnumeral with
  | digit hvalue => simp [Text.isDecimal, hvalue]
  | longer _ hmark hvalue ih =>
    intro c hc
    rw [List.mem_append, List.mem_append, List.mem_singleton] at hc
    rcases hc with hc | hc | rfl
    · exact ih c hc
    · rcases hmark with rfl | rfl
      · cases hc
      · exact .inr (List.mem_singleton.1 hc)
    · exact .inl (by rw [Text.isDecimal, hvalue]; rfl)

theorem not_isOuterBlank (hnumeral : Numeral numeral number) :
    ∀ c ∈ numeral, isOuterBlank c = false := by
  intro c hc
  rcases hnumeral.isDecimal_or_mark c hc with hdigit | rfl
  · exact isOuterBlank_of_isDecimal hdigit
  · rfl

theorem digitsValue?_eq (hnumeral : Numeral numeral number) : digitsValue? numeral = some number := by
  have hgo := hnumeral.go
  obtain ⟨c, rest, rfl, hc⟩ := hnumeral.exists_cons
  have hmark : ¬ (c == '_') = true := by
    rw [beq_iff_eq]
    exact Text.ne_of_isDecimal hc rfl
  rw [digitsValue?, if_neg hmark, hgo]

/-- What is read after some digits, with or without a mark after them, are more digits. -/
theorem of_go {rest mark : List Char} {result : Nat} {afterMark : Bool}
    (hnumeral : Numeral numeral number) (hmark : mark = if afterMark then ['_'] else [])
    (hgo : digitsValue?.go number afterMark rest = some result) :
    Numeral (numeral ++ (mark ++ rest)) result := by
  induction rest generalizing numeral number mark afterMark with
  | nil =>
    rw [digitsValue?.go] at hgo
    cases afterMark with
    | true => cases hgo
    | false =>
      cases hgo
      rw [hmark]
      simpa using hnumeral
  | cons c rest ih =>
    rw [digitsValue?.go] at hgo
    by_cases hc : (c == '_') = true
    · rw [if_pos hc] at hgo
      cases afterMark with
      | true => cases hgo
      | false =>
        rw [beq_iff_eq.1 hc, hmark]
        exact ih hnumeral rfl hgo
    · rw [if_neg hc] at hgo
      cases hvalue : Text.decimalValue? c with
      | none =>
        rw [hvalue] at hgo
        cases hgo
      | some digit =>
        rw [hvalue] at hgo
        have hmarked : mark = [] ∨ mark = ['_'] := by
          cases afterMark
          · exact .inl hmark
          · exact .inr hmark
        have hlonger : Numeral (numeral ++ (mark ++ [c]) ++ ([] ++ rest)) result :=
          ih (hnumeral.longer hmarked hvalue) rfl hgo
        simpa using hlonger

theorem of_digitsValue? {result : Nat} (hread : digitsValue? numeral = some result) :
    Numeral numeral result := by
  cases numeral with
  | nil => cases hread
  | cons c rest =>
    rw [digitsValue?] at hread
    split at hread
    · cases hread
    · rename_i hc
      rw [digitsValue?.go, if_neg hc] at hread
      cases hvalue : Text.decimalValue? c with
      | none =>
        rw [hvalue] at hread
        cases hread
      | some digit =>
        have hgo : digitsValue?.go digit false rest = some result := by
          rw [hvalue, Nat.mul_zero] at hread
          exact Nat.zero_add digit ▸ hread
        have hnumeral : Numeral ([c] ++ ([] ++ rest)) result := of_go (.digit hvalue) rfl hgo
        exact hnumeral

theorem unique {other : Nat} (hnumeral : Numeral numeral number) (hother : Numeral numeral other) :
    number = other :=
  Option.some.inj (hnumeral.go.symm.trans hother.go)

theorem not_isIdentifier (hnumeral : Numeral numeral number) : Text.isIdentifier numeral = false := by
  obtain ⟨c, rest, rfl, hc⟩ := hnumeral.exists_cons
  rw [Text.isIdentifier, Text.startsIdentifier_of_isDecimal hc, Bool.false_and]

end Numeral

theorem numeral_zeros (n : Nat) : Numeral (List.replicate (n + 1) '0') 0 := by
  have hzero : Text.decimalValue? '0' = some 0 := rfl
  induction n with
  | zero => exact .digit hzero
  | succ n ih =>
    rw [List.replicate_succ']
    exact ih.next hzero

/-- The number one after some zeros. -/
def paddedOne (zeros : Nat) : List Char :=
  List.replicate zeros '0' ++ ['1']

theorem numeral_paddedOne (zeros : Nat) : Numeral (paddedOne zeros) 1 := by
  have hone : Text.decimalValue? '1' = some 1 := rfl
  cases zeros with
  | zero => exact .digit hone
  | succ n => exact (numeral_zeros n).next hone

theorem digitCount_paddedOne (zeros : Nat) : digitCount (paddedOne zeros) = zeros + 1 := by
  simp [digitCount, paddedOne]

/-! ### Texts of whole numbers -/

/-- A text is a whole number as it may be written: digits, a sign that may stand before them, and blanks
around both. -/
def Denotes (text : String) (digits : List Char) (value : Int) : Prop :=
  ∃ first sign last number, text.toList = first ++ (sign ++ digits) ++ last ∧
    (∀ c ∈ first, isOuterBlank c = true) ∧ (∀ c ∈ last, isOuterBlank c = true) ∧
    Numeral digits number ∧
    ((sign = [] ∨ sign = ['+']) ∧ value = number ∨ sign = ['-'] ∧ value = -(number : Int))

/-- The value of digits with a sign before them, unless they are too many. -/
def signed (negative : Bool) (digits : List Char) : Option Int :=
  if digitLimit < digitCount digits then none
  else (digitsValue? digits).map fun n => if negative then -(n : Int) else n

section Denotes

variable {text : String} {digits : List Char} {value : Int}

theorem value?_of_minus (hbody : Text.trimWhile isOuterBlank text.toList = '-' :: digits) :
    value? text = signed true digits := by
  rw [value?, hbody]
  rfl

theorem value?_of_plus (hbody : Text.trimWhile isOuterBlank text.toList = '+' :: digits) :
    value? text = signed false digits := by
  rw [value?, hbody]
  rfl

theorem value?_of_unsigned (hbody : Text.trimWhile isOuterBlank text.toList = digits)
    (hminus : ∀ rest, digits ≠ '-' :: rest) (hplus : ∀ rest, digits ≠ '+' :: rest) :
    value? text = signed false digits := by
  rw [value?, hbody]
  dsimp only
  split
  · exact absurd rfl (hminus _)
  · exact absurd rfl (hplus _)
  · rfl

/-- A number is read as it is written, unless it has too many digits. -/
theorem Denotes.value?_eq (hdenotes : Denotes text digits value) :
    value? text = if digitLimit < digitCount digits then none else some value := by
  obtain ⟨first, sign, last, number, htext, hfirst, hlast, hnumeral, hsign⟩ := hdenotes
  have hplain : ∀ c ∈ sign ++ digits, isOuterBlank c = false := by
    intro c hc
    rcases List.mem_append.1 hc with hc | hc
    · rcases hsign with ⟨rfl | rfl, -⟩ | ⟨rfl, -⟩
      · cases hc
      · rw [List.mem_singleton.1 hc]
        rfl
      · rw [List.mem_singleton.1 hc]
        rfl
    · exact hnumeral.not_isOuterBlank c hc
  have hbody : Text.trimWhile isOuterBlank text.toList = sign ++ digits :=
    Text.trimWhile_eq_iff.2 ⟨first, last, htext, hfirst, hlast,
      fun c hc => hplain c (List.mem_of_mem_head? hc), fun c hc => hplain c (List.mem_of_getLast? hc)⟩
  rcases hsign with ⟨rfl | rfl, rfl⟩ | ⟨rfl, rfl⟩
  · have hunsigned : Text.trimWhile isOuterBlank text.toList = digits := hbody
    obtain ⟨c, rest, hcons, hc⟩ := hnumeral.exists_cons
    have hapart : ∀ mark, Text.isDecimal mark = false → ∀ rest, digits ≠ mark :: rest := by
      rintro mark hmark rest heq
      exact Text.ne_of_isDecimal hc hmark (List.cons.inj (hcons.symm.trans heq)).1
    rw [value?_of_unsigned hunsigned (hapart '-' rfl) (hapart '+' rfl), signed,
      hnumeral.digitsValue?_eq]
    rfl
  · have hplus : Text.trimWhile isOuterBlank text.toList = '+' :: digits := hbody
    rw [value?_of_plus hplus, signed, hnumeral.digitsValue?_eq]
    rfl
  · have hminus : Text.trimWhile isOuterBlank text.toList = '-' :: digits := hbody
    rw [value?_of_minus hminus, signed, hnumeral.digitsValue?_eq]
    rfl

theorem Denotes.of_numeral {number : Nat} (hnumeral : Numeral digits number) :
    Denotes (String.ofList digits) digits number :=
  ⟨[], [], [], number, by simp, by simp, by simp, hnumeral, .inl ⟨.inl rfl, rfl⟩⟩

theorem Numeral.value?_eq {number : Nat} (hnumeral : Numeral digits number) :
    value? (String.ofList digits) =
      if digitLimit < digitCount digits then none else some (number : Int) :=
  (Denotes.of_numeral hnumeral).value?_eq

theorem denotes_of_signed {first sign last : List Char} {negative : Bool}
    (htext : text.toList = first ++ (sign ++ digits) ++ last)
    (hfirst : ∀ c ∈ first, isOuterBlank c = true) (hlast : ∀ c ∈ last, isOuterBlank c = true)
    (hsign : negative = false ∧ (sign = [] ∨ sign = ['+']) ∨ negative = true ∧ sign = ['-'])
    (hread : signed negative digits = some value) :
    ∃ digits, Denotes text digits value ∧ digitCount digits ≤ digitLimit := by
  unfold signed at hread
  split at hread
  · cases hread
  · rename_i hlimit
    cases hnumber : digitsValue? digits with
    | none =>
      rw [hnumber] at hread
      cases hread
    | some number =>
      rw [hnumber] at hread
      cases hread
      refine ⟨digits, ⟨first, sign, last, number, htext, hfirst, hlast, .of_digitsValue? hnumber, ?_⟩,
        Nat.not_lt.1 hlimit⟩
      rcases hsign with ⟨rfl, hsign⟩ | ⟨rfl, hsign⟩
      · exact .inl ⟨hsign, rfl⟩
      · exact .inr ⟨hsign, rfl⟩

/-- The texts that are read are those of whole numbers with no more digits than the limit. -/
theorem value?_eq_some_iff :
    value? text = some value ↔ ∃ digits, Denotes text digits value ∧ digitCount digits ≤ digitLimit := by
  constructor
  · intro hread
    obtain ⟨first, last, htext, hfirst, hlast, -⟩ := Text.trimWhile_eq_iff.1
      (rfl : Text.trimWhile isOuterBlank text.toList = _)
    by_cases hminus : ∃ digits, Text.trimWhile isOuterBlank text.toList = '-' :: digits
    · obtain ⟨digits, hbody⟩ := hminus
      rw [value?_of_minus hbody] at hread
      rw [hbody] at htext
      have hsigned : text.toList = first ++ (['-'] ++ digits) ++ last := htext
      exact denotes_of_signed hsigned hfirst hlast (.inr ⟨rfl, rfl⟩) hread
    by_cases hplus : ∃ digits, Text.trimWhile isOuterBlank text.toList = '+' :: digits
    · obtain ⟨digits, hbody⟩ := hplus
      rw [value?_of_plus hbody] at hread
      rw [hbody] at htext
      have hsigned : text.toList = first ++ (['+'] ++ digits) ++ last := htext
      exact denotes_of_signed hsigned hfirst hlast (.inl ⟨rfl, .inr rfl⟩) hread
    · rw [value?_of_unsigned rfl (fun rest heq => hminus ⟨rest, heq⟩)
        fun rest heq => hplus ⟨rest, heq⟩] at hread
      have hunsigned :
          text.toList = first ++ ([] ++ Text.trimWhile isOuterBlank text.toList) ++ last := htext
      exact denotes_of_signed hunsigned hfirst hlast (.inl ⟨rfl, .inl rfl⟩) hread
  · rintro ⟨digits, hdenotes, hlimit⟩
    rw [hdenotes.value?_eq, if_neg (Nat.not_lt.2 hlimit)]

end Denotes

end IntegerLiteral

end ScriptBridge
