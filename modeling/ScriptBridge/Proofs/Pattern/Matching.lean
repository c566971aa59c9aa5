import Mathlib.Data.List.Basic
import ScriptBridge.Pattern.Match

/-!
# Matches

A match never leaves its text: it ends where it starts or further on. So a text is searched from left to
right, each match is found where the one before it has ended or later, and the first that is tried at a
position counts.
-/

namespace ScriptBridge.Pattern

/-! ### Going on -/

namespace State

/-- Some characters take one state to another. -/
def Passes (s : State) (passed : List Char) (t : State) : Prop :=
  s.after = passed ++ t.after ∧ t.before = passed.reverse ++ s.before

/-- A state is further on in the text of another, or at the same position. -/
def Leads (s t : State) : Prop := ∃ passed, s.Passes passed t

theorem Leads.refl (s : State) : s.Leads s := ⟨[], rfl, rfl⟩

theorem Leads.trans {s t u : State} (hfirst : s.Leads t) (hsecond : t.Leads u) : s.Leads u := by
  obtain ⟨passed, hafter, hbefore⟩ := hfirst
  obtain ⟨passed', hafter', hbefore'⟩ := hsecond
  refine ⟨passed ++ passed', ?_, ?_⟩
  · rw [hafter, hafter', List.append_assoc]
  · rw [hbefore', hbefore, List.reverse_append, List.append_assoc]

end State

/-- What a step hands on is further on than where it starts. -/
def Advances (step : (State → Option State) → State → Option State) : Prop :=
  ∀ k s r, step k s = some r → ∃ t, s.Leads t ∧ k t = some r

theorem leads_of_next {accepts : Char → Bool} {s t : State} (hnext : next accepts s = some t) :
    s.Leads t := by
  unfold next at hnext
  split at hnext
  · rename_i c rest hafter
    split at hnext
    · cases hnext
      exact ⟨[c], hafter, rfl⟩
    · cases hnext
  · cases hnext

theorem leads_of_nextText {mode : CharMode} {text : List Char} {s t : State}
    (hnext : nextText mode text s = some t) : s.Leads t := by
  induction text generalizing s with
  | nil =>
    cases hnext
    exact .refl _
  | cons c rest ih =>
    obtain ⟨u, hu, hrest⟩ := Option.bind_eq_some_iff.1 hnext
    exact (leads_of_next hu).trans (ih hrest)

section Iterate

variable {step : (State → Option State) → State → Option State} {least : Nat} {most : Option Nat}
  {greed : Greed}

/-- One more repetition, and what comes after it. -/
theorem Advances.again (hstep : Advances step) {k k' : State → Option State} {s r : State}
    (hk : ∀ t r, k' t = some r → ∃ u, t.Leads u ∧ k u = some r) (hagain : step k' s = some r) :
    ∃ t, s.Leads t ∧ k t = some r := by
  obtain ⟨t, hfirst, hrest⟩ := hstep k' s r hagain
  obtain ⟨u, hsecond, hresult⟩ := hk t r hrest
  exact ⟨u, hfirst.trans hsecond, hresult⟩

theorem Advances.iterate (hstep : Advances step) (fuel count : Nat) (last : Option Nat) :
    Advances fun k => Pattern.iterate step least most greed k fuel count last := by
  induction fuel generalizing count last with
  | zero =>
    intro k s r hresult
    cases hresult
  | succ fuel ih =>
    intro k s r hresult
    have hagain : ∀ {count last}, step (Pattern.iterate step least most greed k fuel count last) s =
        some r → ∃ t, s.Leads t ∧ k t = some r :=
      fun hagain => hstep.again (fun t r => ih _ _ k t r) hagain
    have hmore : ∀ {condition : Bool} {count last},
        (if condition then step (Pattern.iterate step least most greed k fuel count last) s else none) =
          some r → ∃ t, s.Leads t ∧ k t = some r := by
      intro condition count last hmore
      cases condition with
      | true => exact hagain hmore
      | false => cases hmore
    simp only [Pattern.iterate] at hresult
    split at hresult
    · exact hagain hresult
    · cases greed with
      | reluctant =>
        dsimp only at hresult
        split at hresult
        · rename_i hk
          cases hresult
          exact ⟨s, .refl s, hk⟩
        · exact hmore hresult
      | greedy | possessive =>
        dsimp only at hresult
        split at hresult
        · rename_i hk
          cases hresult
          exact hmore hk
        · exact ⟨s, .refl s, hresult⟩

end Iterate

/-- A step whose first result is final. -/
theorem Advances.final {step : (State → Option State) → State → Option State} (hstep : Advances step) :
    Advances fun k s => (step some s).bind k := by
  intro k s r hresult
  obtain ⟨t, ht, hk⟩ := Option.bind_eq_some_iff.1 hresult
  obtain ⟨u, hleads, hsame⟩ := hstep some s t ht
  cases hsame
  exact ⟨t, hleads, hk⟩

/-- Looking ahead or behind does not move. -/
theorem leads_of_look {found : Option State} {negated : Bool} {k : State → Option State} {s r : State}
    (hlook : (match found with
      | some t => if negated then none else k (s.withGroups t)
      | none => if negated then k s else none) = some r) : ∃ t, s.Leads t ∧ k t = some r := by
  cases found with
  | some t =>
    cases negated with
    | true => cases hlook
    | false => exact ⟨s.withGroups t, .refl s, hlook⟩
  | none =>
    cases negated with
    | true => exact ⟨s, .refl s, hlook⟩
    | false => cases hlook

/-- Whatever a pattern matches, the rest of the text is matched further on. -/
theorem advances_run (pattern : Pattern) : Advances pattern.run := by
  induction pattern with
  | empty => exact fun k s r hresult => ⟨s, .refl s, hresult⟩
  | charIn set mode =>
    intro k s r hresult
    obtain ⟨t, ht, hk⟩ := Option.bind_eq_some_iff.1 hresult
    exact ⟨t, leads_of_next ht, hk⟩
  | anyChar lineFeeds =>
    intro k s r hresult
    obtain ⟨t, ht, hk⟩ := Option.bind_eq_some_iff.1 hresult
    exact ⟨t, leads_of_next ht, hk⟩
  | anchor condition =>
    intro k s r hresult
    rw [run] at hresult
    split at hresult
    · exact ⟨s, .refl s, hresult⟩
    · cases hresult
  | seq first second ihfirst ihsecond =>
    exact fun k s r hresult => ihfirst.again (ihsecond k) hresult
  | alt first second ihfirst ihsecond =>
    intro k s r hresult
    rw [run] at hresult
    split at hresult
    · rename_i hfirst
      cases hresult
      exact ihfirst k s r hfirst
    · exact ihsecond k s r hresult
  | group index body ih =>
    intro k s r hresult
    obtain ⟨t, hleads, hk⟩ := ih _ _ _ hresult
    exact ⟨t.closeGroup index s.position, hleads, hk⟩
  | repeated body least most greed ih =>
    intro k s r hresult
    cases greed with
    | greedy => exact ih.iterate _ _ _ k s r hresult
    | reluctant => exact ih.iterate _ _ _ k s r hresult
    | possessive => exact (ih.final.iterate _ _ _).final k s r hresult
  | ahead negated body =>
    intro k s r hresult
    rw [run] at hresult
    exact leads_of_look hresult
  | behind negated width body =>
    intro k s r hresult
    rw [run] at hresult
    exact leads_of_look hresult
  | reference index mode =>
    intro k s r hresult
    rw [run] at hresult
    split at hresult
    · obtain ⟨t, ht, hk⟩ := Option.bind_eq_some_iff.1 hresult
      exact ⟨t, leads_of_nextText ht, hk⟩
    · cases hresult
  | conditional index kept missing ihkept ihmissing =>
    intro k s r hresult
    rw [run] at hresult
    split at hresult
    · exact ihkept k s r hresult
    · exact ihmissing k s r hresult
  | atomic body ih => exact ih.final

/-! ### Searching -/

/-- What a pattern matches at a position. If it has to advance, it does not match there without a
character. -/
def matchAt (pattern : Pattern) (mustAdvance : Bool) (before after : List Char) : Option State :=
  pattern.run (fun t => if mustAdvance && t.position == before.length then none else some t)
    { before, after }

/-- A pattern matches nowhere from a position on. -/
def NoMatch (pattern : Pattern) (mustAdvance : Bool) (before after : List Char) : Prop :=
  ∀ skipped rest, after = skipped ++ rest →
    pattern.matchAt (mustAdvance && skipped.isEmpty) (skipped.reverse ++ before) rest = none

/-- The first match from a position on, after some characters that are skipped. -/
structure FirstMatch (pattern : Pattern) (mustAdvance : Bool)
    (before after skipped matched rest : List Char) (found : Found) : Prop where
  text : after = skipped ++ (matched ++ rest)
  none_before : ∀ earlier later, skipped = earlier ++ later → later ≠ [] →
    pattern.matchAt (mustAdvance && earlier.isEmpty) (earlier.reverse ++ before)
      (later ++ (matched ++ rest)) = none
  found_there : pattern.matchAt (mustAdvance && skipped.isEmpty) (skipped.reverse ++ before)
    (matched ++ rest) = some found.state
  start : found.start = before.length + skipped.length
  before_end : found.state.before = matched.reverse ++ (skipped.reverse ++ before)
  after_end : found.state.after = rest

theorem search_eq (pattern : Pattern) (mustAdvance : Bool) (before after : List Char) :
    pattern.search mustAdvance before after =
      (match pattern.matchAt mustAdvance before after with
      | some state => some { start := before.length, state }
      | none => match after with
        | [] => none
        | c :: rest => pattern.search false (c :: before) rest) := by
  have hmatch : pattern.run (fun t => if mustAdvance && t.position ==
      (State.mk before after [] []).position then none else some t) { before, after } =
        pattern.matchAt mustAdvance before after := rfl
  rw [search.eq_def]
  dsimp only
  rw [hmatch]
  cases pattern.matchAt mustAdvance before after with
  | some state => rfl
  | none => cases after <;> rfl

theorem matchAt_false (pattern : Pattern) (before after : List Char) :
    pattern.matchAt false before after = pattern.run some { before, after } :=
  rfl

/-- A match takes characters from the text, and one at least if it has to advance. -/
theorem passes_of_matchAt {pattern : Pattern} {mustAdvance : Bool} {before after : List Char}
    {state : State} (hmatch : pattern.matchAt mustAdvance before after = some state) :
    ∃ matched, State.Passes { before, after } matched state ∧
      (mustAdvance = true → matched ≠ []) := by
  obtain ⟨t, ⟨matched, hafter, hbefore⟩, ht⟩ := advances_run pattern _ _ _ hmatch
  split at ht
  · cases ht
  · rename_i hmoved
    cases ht
    refine ⟨matched, ⟨hafter, hbefore⟩, ?_⟩
    rintro rfl rfl
    refine hmoved ?_
    simp [State.position, hbefore]

variable {pattern : Pattern} {mustAdvance : Bool} {before after skipped matched rest : List Char}
  {found : Found}

theorem noMatch_nil :
    pattern.NoMatch mustAdvance before [] ↔ pattern.matchAt mustAdvance before [] = none := by
  refine ⟨fun hnone => by simpa using hnone [] [] rfl, fun hnone skipped rest happend => ?_⟩
  obtain ⟨rfl, rfl⟩ := List.append_eq_nil_iff.1 happend.symm
  simpa using hnone

theorem noMatch_cons {c : Char} :
    pattern.NoMatch mustAdvance before (c :: after) ↔
      pattern.matchAt mustAdvance before (c :: after) = none ∧
        pattern.NoMatch false (c :: before) after := by
  constructor
  · refine fun hnone => ⟨by simpa using hnone [] _ rfl, fun skipped rest happend => ?_⟩
    simpa using hnone (c :: skipped) rest (congrArg (c :: ·) happend)
  · rintro ⟨hhere, hlater⟩ skipped rest happend
    cases skipped with
    | nil =>
      rw [List.nil_append] at happend
      simpa [happend] using hhere
    | cons d skipped =>
      obtain ⟨rfl, htail⟩ := List.cons.inj happend
      simpa using hlater skipped rest htail

theorem search_eq_none_iff :
    pattern.search mustAdvance before after = none ↔ pattern.NoMatch mustAdvance before after := by
  induction after generalizing mustAdvance before with
  | nil =>
    rw [search_eq, noMatch_nil]
    cases pattern.matchAt mustAdvance before [] <;> simp
  | cons c after ih =>
    rw [search_eq, noMatch_cons, ← ih]
    cases pattern.matchAt mustAdvance before (c :: after) <;> simp

theorem firstMatch_here {state : State}
    (hmatch : pattern.matchAt mustAdvance before after = some state) :
    ∃ matched rest, pattern.FirstMatch mustAdvance before after [] matched rest
      { start := before.length, state } := by
  obtain ⟨matched, ⟨hafter, hbefore⟩, -⟩ := passes_of_matchAt hmatch
  dsimp only at hafter
  refine ⟨matched, state.after, hafter, ?_, by simpa [← hafter] using hmatch, rfl, hbefore, rfl⟩
  intro earlier later happend hlater
  exact absurd (List.append_eq_nil_iff.1 happend.symm).2 hlater

theorem firstMatch_cons {c : Char} :
    pattern.FirstMatch mustAdvance before (c :: after) (c :: skipped) matched rest found ↔
      pattern.matchAt mustAdvance before (c :: after) = none ∧
        pattern.FirstMatch false (c :: before) after skipped matched rest found := by
  constructor
  · intro hfirst
    obtain ⟨-, htext⟩ := List.cons.inj hfirst.text
    refine ⟨?_, htext, fun earlier later happend hlater => ?_, ?_, ?_, ?_, hfirst.after_end⟩
    · simpa [htext] using hfirst.none_before [] (c :: skipped) rfl (by simp)
    · simpa using hfirst.none_before (c :: earlier) later (by rw [happend]; rfl) hlater
    · simpa using hfirst.found_there
    · rw [hfirst.start, List.length_cons, List.length_cons, Nat.add_right_comm, Nat.add_assoc]
    · simpa using hfirst.before_end
  · rintro ⟨hhere, hfirst⟩
    refine ⟨by rw [hfirst.text]; rfl, fun earlier later happend hlater => ?_, ?_, ?_, ?_,
      hfirst.after_end⟩
    · cases earlier with
      | nil =>
        obtain rfl : later = c :: skipped := happend.symm
        simpa [← hfirst.text] using hhere
      | cons d earlier =>
        obtain ⟨rfl, hskipped⟩ := List.cons.inj happend
        simpa using hfirst.none_before earlier later hskipped hlater
    · simpa using hfirst.found_there
    · rw [hfirst.start, List.length_cons, List.length_cons, Nat.add_right_comm, Nat.add_assoc]
    · simpa using hfirst.before_end

theorem exists_firstMatch (hfound : pattern.search mustAdvance before after = some found) :
    ∃ skipped matched rest,
      pattern.FirstMatch mustAdvance before after skipped matched rest found := by
  induction after generalizing mustAdvance before with
  | nil =>
    rw [search_eq] at hfound
    cases hmatch : pattern.matchAt mustAdvance before [] with
    | some state =>
      rw [hmatch] at hfound
      cases hfound
      exact ⟨[], firstMatch_here hmatch⟩
    | none =>
      rw [hmatch] at hfound
      cases hfound
  | cons c after ih =>
    rw [search_eq] at hfound
    cases hmatch : pattern.matchAt mustAdvance before (c :: after) with
    | some state =>
      rw [hmatch] at hfound
      cases hfound
      exact ⟨[], firstMatch_here hmatch⟩
    | none =>
      rw [hmatch] at hfound
      obtain ⟨skipped, matched, rest, hfirst⟩ := ih hfound
      exact ⟨c :: skipped, matched, rest, firstMatch_cons.2 ⟨hmatch, hfirst⟩⟩

theorem FirstMatch.search_eq
    (hfirst : pattern.FirstMatch mustAdvance before after skipped matched rest found) :
    pattern.search mustAdvance before after = some found := by
  induction skipped generalizing mustAdvance before after with
  | nil =>
    have hmatch : pattern.matchAt mustAdvance before after = some found.state := by
      simpa [hfirst.text] using hfirst.found_there
    rw [Pattern.search_eq, hmatch]
    have hstart : before.length = found.start := hfirst.start.symm
    rw [hstart]
  | cons c skipped ih =>
    obtain rfl : after = c :: (skipped ++ (matched ++ rest)) := hfirst.text
    obtain ⟨hhere, hlater⟩ := firstMatch_cons.1 hfirst
    rw [Pattern.search_eq, hhere]
    exact ih hlater

/-! ### Replacing -/

/-- A text with every match of a pattern replaced: what is skipped before a match is kept, and after an
empty match the next one has to advance. -/
inductive Replaced (pattern : Pattern) (replacement : Found → List Char) :
    (mustAdvance : Bool) → (before after result : List Char) → Prop
  | rest {mustAdvance : Bool} {before after : List Char} :
    pattern.NoMatch mustAdvance before after →
    Replaced pattern replacement mustAdvance before after after
  | next {mustAdvance : Bool} {before after skipped matched rest result : List Char} {found : Found} :
    pattern.FirstMatch mustAdvance before after skipped matched rest found →
    Replaced pattern replacement matched.isEmpty (matched.reverse ++ (skipped.reverse ++ before)) rest
      result →
    Replaced pattern replacement mustAdvance before after (skipped ++ (replacement found ++ result))

/-- How many matches there can be at most, and one. -/
def turns (mustAdvance : Bool) (after : List Char) : Nat :=
  2 * after.length + if mustAdvance then 1 else 2

theorem FirstMatch.turns_lt
    (hfirst : pattern.FirstMatch mustAdvance before after skipped matched rest found) :
    turns matched.isEmpty rest < turns mustAdvance after := by
  have hmoved : mustAdvance = true → skipped = [] → matched ≠ [] := by
    rintro rfl rfl
    obtain ⟨passed, ⟨hafter, -⟩, hne⟩ := passes_of_matchAt hfirst.found_there
    dsimp only at hafter
    rw [hfirst.after_end, List.append_cancel_right_eq] at hafter
    exact hafter ▸ hne rfl
  rw [hfirst.text, turns, turns, List.length_append, List.length_append]
  cases matched with
  | nil =>
    have hskipped : mustAdvance = true → 0 < skipped.length := fun hmust =>
      List.length_pos_iff.2 fun hnil => hmoved hmust hnil rfl
    cases mustAdvance with
    | false =>
      simp only [List.isEmpty_nil, List.length_nil, if_true, Bool.false_eq_true, if_false]
      omega
    | true =>
      have hlength := hskipped rfl
      simp only [List.isEmpty_nil, List.length_nil, if_true]
      omega
  | cons c matched =>
    simp only [List.isEmpty_cons, List.length_cons, Bool.false_eq_true, if_false]
    split <;> omega

variable {replacement : Found → List Char}

theorem Replaced.replaceFrom_eq {result : List Char} {fuel : Nat}
    (hreplaced : pattern.Replaced replacement mustAdvance before after result)
    (hfuel : turns mustAdvance after ≤ fuel) :
    pattern.replaceFrom replacement fuel mustAdvance before after = result := by
  induction hreplaced generalizing fuel with
  | @rest mustAdvance before after hnone =>
    cases fuel with
    | zero => cases mustAdvance <;> simp [turns] at hfuel
    | succ fuel => rw [replaceFrom, search_eq_none_iff.2 hnone]
  | @next mustAdvance before after skipped matched rest result found hfirst _ ih =>
    cases fuel with
    | zero => cases mustAdvance <;> simp [turns] at hfuel
    | succ fuel =>
      have hrest := ih (Nat.le_of_lt_succ (Nat.lt_of_lt_of_le hfirst.turns_lt hfuel))
      have hempty : (found.state.position == found.start) = matched.isEmpty := by
        rw [State.position, hfirst.before_end, hfirst.start]
        cases matched <;> simp <;> omega
      have hskipped : after.take (found.start - before.length) = skipped := by
        rw [hfirst.start, Nat.add_sub_cancel_left, hfirst.text, List.take_left]
      rw [replaceFrom, hfirst.search_eq]
      dsimp only
      rw [hempty, hfirst.before_end, hfirst.after_end, hrest, hskipped, List.append_assoc]

theorem exists_replaced (pattern : Pattern) (replacement : Found → List Char) (mustAdvance : Bool)
    (before after : List Char) :
    ∃ result, pattern.Replaced replacement mustAdvance before after result := by
  induction hturns : turns mustAdvance after using Nat.strongRecOn
    generalizing mustAdvance before after with
  | ind n ih =>
    subst hturns
    cases hsearch : pattern.search mustAdvance before after with
    | none => exact ⟨after, .rest (search_eq_none_iff.1 hsearch)⟩
    | some found =>
      obtain ⟨skipped, matched, rest, hfirst⟩ := exists_firstMatch hsearch
      obtain ⟨result, hresult⟩ := ih _ hfirst.turns_lt _ _ rest rfl
      exact ⟨_, .next hfirst hresult⟩

/-- All matches are replaced, one after another, until there is none. -/
theorem replaceAll_eq_iff {text result : List Char} :
    pattern.replaceAll replacement text = result ↔
      pattern.Replaced replacement false [] text result := by
  have hall : ∀ {result}, pattern.Replaced replacement false [] text result →
      pattern.replaceAll replacement text = result :=
    fun hreplaced => hreplaced.replaceFrom_eq (Nat.le_refl _)
  refine ⟨fun hresult => ?_, hall⟩
  obtain ⟨result', hreplaced⟩ := exists_replaced pattern replacement false [] text
  rw [← hresult, hall hreplaced]
  exact hreplaced

/-- A pattern occurs in a text if it matches at some position of it. -/
theorem occurs_iff {text : List Char} :
    pattern.occurs text = true ↔ ∃ before after state, text = before ++ after ∧
      pattern.run some { before := before.reverse, after } = some state := by
  rw [occurs, Option.isSome_iff_ne_none, Ne, search_eq_none_iff]
  unfold NoMatch
  simp only [Bool.false_and, List.append_nil, matchAt_false, not_forall]
  constructor
  · rintro ⟨before, after, happend, hmatch⟩
    obtain ⟨state, hstate⟩ := Option.ne_none_iff_exists'.1 hmatch
    exact ⟨before, after, state, happend, hstate⟩
  · rintro ⟨before, after, state, happend, hstate⟩
    exact ⟨before, after, happend, by simp [hstate]⟩

end ScriptBridge.Pattern
