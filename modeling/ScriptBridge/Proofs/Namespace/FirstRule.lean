import ScriptBridge.Proofs.Namespace.Answers
import ScriptBridge.Proofs.Outcome
import ScriptBridge.Proofs.Pattern.Matching
import ScriptBridge.Proofs.Text.Runs

/-!
# The first rule decides

What a namespace is called in script, without a resolver: the first rule whose pattern occurs in it says
so, and dots at the ends are dropped. A resolver answers the same, whatever it has been asked before and
whichever rules come after.
-/

namespace ScriptBridge.Namespace

/-! ### Rules -/

/-- A rule whose pattern is read, and nothing else of it changed. -/
def Compiles (rule : NamespaceRule) (compiled : CompiledRule) : Prop :=
  rule.pattern = .text compiled.source ∧
    NumberedPattern.read compiled.source = .ok compiled.pattern ∧
      compiled.replacement = rule.replacement

theorem compiles_iff {rule : NamespaceRule} {compiled : CompiledRule} :
    CompiledRule.ofRule rule = .ok compiled ↔ Compiles rule compiled := by
  constructor
  · intro hmade
    unfold CompiledRule.ofRule at hmade
    split at hmade
    · rename_i source hsource
      split at hmade
      · rename_i pattern hread
        cases hmade
        exact ⟨hsource, hread, rfl⟩
      all_goals cases hmade
    · cases hmade
  · rintro ⟨hsource, hread, hreplacement⟩
    rw [CompiledRule.ofRule, hsource]
    dsimp only
    rw [hread, ← hreplacement]

/-- The pattern of a rule matches at some position of a namespace. -/
def CompiledRule.Occurs (rule : CompiledRule) (space : String) : Prop :=
  ∃ before after state, space.toList = before ++ after ∧
    rule.pattern.pattern.run some { before := before.reverse, after } = some state

theorem CompiledRule.applies_iff {rule : CompiledRule} {space : String} :
    rule.applies space = true ↔ rule.Occurs space :=
  Pattern.occurs_iff

theorem CompiledRule.not_occurs_iff {rule : CompiledRule} {space : String} :
    ¬ rule.Occurs space ↔ (!rule.applies space) = true := by
  rw [← applies_iff, Bool.not_eq_true, Bool.not_eq_true']

/-- What a rule makes of a namespace: every match is replaced by what the replacement expands to, or the
replacement is at fault. -/
inductive CompiledRule.Substitutes (rule : CompiledRule) (space : String) : Except Error String → Prop
  | replaced {replacement : String} {pieces : List Template.Piece} {result : List Char} :
    rule.replacement = .text replacement →
    Template.read rule.pattern (template replacement) = .ok pieces →
    rule.pattern.pattern.Replaced (Template.expand pieces) false [] space.toList result →
    rule.Substitutes space (.ok (String.ofList result))
  | malformed {replacement : String} :
    rule.replacement = .text replacement →
    Template.read rule.pattern (template replacement) = .error .malformed →
    rule.Substitutes space (.error (.rejected [] (.invalidReplacement replacement rule.source)))
  | unknownGroup {replacement : String} :
    rule.replacement = .text replacement →
    Template.read rule.pattern (template replacement) = .error .unknownName →
    rule.Substitutes space (.error (.misused .unknownGroup))
  | notText : (∀ replacement, rule.replacement ≠ .text replacement) →
    rule.Substitutes space (.error (.misused .replacementNotText))

theorem CompiledRule.substitutes_iff {rule : CompiledRule} {space : String}
    {outcome : Except Error String} : rule.Substitutes space outcome ↔ rule.replace space = outcome := by
  constructor
  · intro hsubstitutes
    cases hsubstitutes with
    | replaced htext hread hreplaced =>
      rw [replace, htext]
      dsimp only
      rw [hread, ← Pattern.replaceAll_eq_iff.2 hreplaced]
    | malformed htext hread | unknownGroup htext hread =>
      rw [replace, htext]
      dsimp only
      rw [hread]
    | notText hother =>
      unfold replace
      split
      · rename_i replacement htext
        exact absurd htext (hother replacement)
      · rfl
  · rintro rfl
    unfold replace
    split
    · rename_i replacement htext
      split
      · rename_i pieces hread
        exact .replaced htext hread (Pattern.replaceAll_eq_iff.1 rfl)
      · rename_i hread
        exact .malformed htext hread
      · rename_i hread
        exact .unknownGroup htext hread
    · rename_i hother
      exact .notText hother

/-! ### Names -/

/-- What a namespace is called by some rules: the first that occurs in it decides, and without one it
keeps its name. -/
inductive Renames (rules : List CompiledRule) (space : String) : Except Error String → Prop
  | first {before after : List CompiledRule} {rule : CompiledRule} {outcome : Except Error String} :
    rules = before ++ rule :: after → (∀ earlier ∈ before, ¬ earlier.Occurs space) →
    rule.Occurs space → rule.Substitutes space outcome → Renames rules space outcome
  | unchanged : (∀ rule ∈ rules, ¬ rule.Occurs space) → Renames rules space (.ok space)

/-- A namespace without dots at its ends, the global one if nothing is left. -/
inductive Trims (space : String) : String → Prop
  | inner {first core last : List Char} :
    space.toList = first ++ core ++ last → (∀ c ∈ first, c = '.') → (∀ c ∈ last, c = '.') →
    core ≠ [] → core.head? ≠ some '.' → core.getLast? ≠ some '.' → Trims space (String.ofList core)
  | dots : (∀ c ∈ space.toList, c = '.') → Trims space global

/-- The name of a namespace in script, the global one in place of none. -/
inductive Resolves (rules : List CompiledRule) (space : String) : Except Error String → Prop
  | named {renamed target : String} :
    Renames rules (if space = "" then global else space) (.ok renamed) → Trims renamed target →
    Resolves rules space (.ok target)
  | failed {e : Error} :
    Renames rules (if space = "" then global else space) (.error e) → Resolves rules space (.error e)

theorem orGlobal_eq (space : String) : orGlobal space = if space = "" then global else space := by
  rw [orGlobal]
  by_cases hempty : space = ""
  · rw [if_pos hempty, if_pos (by simpa using hempty)]
  · rw [if_neg hempty, if_neg (by simpa using hempty)]

theorem orGlobal_orGlobal (space : String) : orGlobal (orGlobal space) = orGlobal space := by
  rw [orGlobal_eq space]
  split
  · decide
  · rename_i hfull
    rw [orGlobal_eq, if_neg hfull]

/-- What the first rule that applies makes of a namespace. -/
def renamed (rules : List CompiledRule) (space : String) : Except Error String :=
  match rules.find? (·.applies space) with
  | some rule => rule.replace space
  | none => .ok space

theorem renames_iff {rules : List CompiledRule} {space : String} {outcome : Except Error String} :
    Renames rules space outcome ↔ renamed rules space = outcome := by
  constructor
  · intro hrenames
    cases hrenames with
    | @first before after rule _ hrules hbefore hoccurs hsubstitutes =>
      have hfind : rules.find? (·.applies space) = some rule :=
        List.find?_eq_some_iff_append.2 ⟨CompiledRule.applies_iff.2 hoccurs, before, after, hrules,
          fun earlier hearlier => CompiledRule.not_occurs_iff.1 (hbefore earlier hearlier)⟩
      rw [renamed, hfind]
      exact CompiledRule.substitutes_iff.1 hsubstitutes
    | unchanged hnone =>
      have hfind : rules.find? (·.applies space) = none :=
        List.find?_eq_none.2 fun rule hrule happlies =>
          hnone rule hrule (CompiledRule.applies_iff.1 happlies)
      rw [renamed, hfind]
  · rintro rfl
    unfold renamed
    split
    · rename_i rule hfind
      obtain ⟨happlies, before, after, hrules, hbefore⟩ := List.find?_eq_some_iff_append.1 hfind
      exact .first hrules
        (fun earlier hearlier => CompiledRule.not_occurs_iff.2 (hbefore earlier hearlier))
        (CompiledRule.applies_iff.1 happlies) (CompiledRule.substitutes_iff.2 rfl)
    · rename_i hfind
      exact .unchanged fun rule hrule hoccurs =>
        List.find?_eq_none.1 hfind rule hrule (CompiledRule.applies_iff.2 hoccurs)

theorem trims_iff {space target : String} : Trims space target ↔ trimmed space = target := by
  have hdot : ∀ {c : Char}, (c == '.') = true ↔ c = '.' := beq_iff_eq
  constructor
  · intro htrims
    cases htrims with
    | @inner first core last hspace hfirst hlast hne hhead hend =>
      have htrim : Text.trimWhile (· == '.') space.toList = core := by
        refine Text.trimWhile_eq_iff.2 ⟨first, last, hspace, fun c hc => hdot.2 (hfirst c hc),
          fun c hc => hdot.2 (hlast c hc), fun c hc => ?_, fun c hc => ?_⟩
        · exact beq_false_of_ne fun heq => hhead (heq ▸ hc)
        · exact beq_false_of_ne fun heq => hend (heq ▸ hc)
      rw [trimmed, htrim, orGlobal_eq, if_neg (by simpa using hne)]
    | dots hdots =>
      have htrim : Text.trimWhile (· == '.') space.toList = [] :=
        Text.trimWhile_eq_iff.2 ⟨space.toList, [], by simp, fun c hc => hdot.2 (hdots c hc), by simp,
          by simp, by simp⟩
      rw [trimmed, htrim]
      rfl
  · rintro rfl
    obtain ⟨core, hcore⟩ : ∃ core, Text.trimWhile (· == '.') space.toList = core := ⟨_, rfl⟩
    obtain ⟨first, last, hspace, hfirst, hlast, hhead, hend⟩ := Text.trimWhile_eq_iff.1 hcore
    rw [trimmed, hcore, orGlobal_eq]
    by_cases hempty : core = []
    · subst hempty
      rw [if_pos rfl]
      refine .dots fun c hc => ?_
      rw [hspace, List.append_nil, List.mem_append] at hc
      exact hc.elim (fun hc => hdot.1 (hfirst c hc)) fun hc => hdot.1 (hlast c hc)
    · rw [if_neg (by simpa using hempty)]
      refine .inner hspace (fun c hc => hdot.1 (hfirst c hc)) (fun c hc => hdot.1 (hlast c hc)) hempty
        (fun hdotted => ?_) fun hdotted => ?_
      · simpa using hhead '.' hdotted
      · simpa using hend '.' hdotted

/-- What a resolver computes when it remembers nothing is what the rules say. -/
theorem resolves_iff {rules : List CompiledRule} {space : String} {outcome : Except Error String} :
    Resolves rules space outcome ↔ Namespace.resolve rules space = outcome := by
  have hresolve : Namespace.resolve rules space = (renamed rules (orGlobal space)).map trimmed := by
    unfold Namespace.resolve renamed
    dsimp only
    cases rules.find? (·.applies (orGlobal space)) <;> rfl
  rw [hresolve]
  constructor
  · intro hresolves
    cases hresolves with
    | named hrenames htrims =>
      rw [← orGlobal_eq] at hrenames
      rw [renames_iff.1 hrenames, ← trims_iff.1 htrims]
      rfl
    | failed hrenames =>
      rw [← orGlobal_eq] at hrenames
      rw [renames_iff.1 hrenames]
      rfl
  · rintro rfl
    cases hrenamed : renamed rules (orGlobal space) with
    | ok name =>
      rw [orGlobal_eq] at hrenamed
      exact .named (renames_iff.2 hrenamed) (trims_iff.2 rfl)
    | error e =>
      rw [orGlobal_eq] at hrenamed
      exact .failed (renames_iff.2 hrenamed)

/-! ### Resolvers -/

namespace Resolver

theorem resolveAll_eq {resolver : Resolver} (hreachable : resolver.Reachable) (spaces : List String) :
    resolver.resolveAll spaces =
      spaces.map fun space => Namespace.resolve resolver.rules (orGlobal space) := by
  induction spaces generalizing resolver with
  | nil => rfl
  | cons space spaces ih =>
    have hrest := ih (hreachable.asked space)
    rw [rules_asked] at hrest
    exact congrArg₂ List.cons (hreachable.answer_eq_resolve space) hrest

end Resolver

theorem resolve_orGlobal (rules : List CompiledRule) (space : String) :
    Namespace.resolve rules (orGlobal space) = Namespace.resolve rules space := by
  rw [Namespace.resolve, Namespace.resolve, orGlobal_orGlobal]

/-- Rules after one that occurs do not count. -/
theorem resolve_append_of_occurs {before after later : List CompiledRule} {rule : CompiledRule}
    {space : String} (hoccurs : rule.Occurs (orGlobal space)) :
    Namespace.resolve (before ++ rule :: after) space =
      Namespace.resolve (before ++ rule :: later) space := by
  have happlies := CompiledRule.applies_iff.2 hoccurs
  have hfind : ∀ others, (before ++ rule :: others).find? (·.applies (orGlobal space)) =
      (before.find? (·.applies (orGlobal space))).or (some rule) := by
    intro others
    rw [List.find?_append, List.find?_cons, happlies]
  rw [Namespace.resolve, Namespace.resolve, hfind, hfind]

/-- Every answer of a resolver, errors included, is what the first rule that occurs in the namespace
says. What was asked before does not count, nor do the rules after it. -/
theorem answers_by_first_rule {rules : List NamespaceRule} {resolver : Resolver}
    (hmade : Resolver.ofRules rules = .ok resolver) :
    List.Forall₂ Compiles rules resolver.rules ∧
      (∀ spaces, List.Forall₂ (fun space answer =>
        ∀ outcome, Resolves resolver.rules space outcome ↔ answer = outcome)
          spaces (resolver.resolveAll spaces)) ∧
      (∀ earlier spaces, resolver.resolveAll (earlier ++ spaces) =
        resolver.resolveAll earlier ++ resolver.resolveAll spaces) ∧
      ∀ before rule after later space outcome, resolver.rules = before ++ rule :: after →
        rule.Occurs (if space = "" then global else space) →
          (Resolves (before ++ rule :: later) space outcome ↔ Resolves resolver.rules space outcome) := by
  have hreachable : resolver.Reachable := .made hmade
  refine ⟨?_, fun spaces => ?_, fun earlier spaces => ?_, ?_⟩
  · unfold Resolver.ofRules at hmade
    obtain ⟨compiled, hcompiled, hsame⟩ := Outcome.bind_eq_ok_iff.1 hmade
    cases hsame
    exact (Outcome.mapM_eq_ok_iff.1 hcompiled).imp fun rule compiled => compiles_iff.1
  · rw [Resolver.resolveAll_eq hreachable, List.forall₂_map_right_iff, List.forall₂_same]
    intro space _ outcome
    rw [resolves_iff, resolve_orGlobal]
  · rw [Resolver.resolveAll_eq hreachable, Resolver.resolveAll_eq hreachable,
      Resolver.resolveAll_eq hreachable, List.map_append]
  · intro before rule after later space outcome hrules hoccurs
    rw [← orGlobal_eq] at hoccurs
    rw [hrules, resolves_iff, resolves_iff, resolve_append_of_occurs hoccurs]

/-- A pattern that matches a word as it is written. -/
def wordPattern (word : String) : Pattern :=
  Pattern.ofList (word.toList.map fun c => .charIn ⟨false, [.single c.toNat]⟩ ⟨false, false⟩)

/-- Two of the rules occur in the menus of a game, and the first has a replacement at fault. -/
def gameRules : List NamespaceRule :=
  [⟨.text "Old", .text "$9"⟩, ⟨.text "^Game", .text "."⟩, ⟨.text "Menu", .text "Menus"⟩,
    ⟨.text "Global", .text "root"⟩]

def gameResolver : Resolver where
  rules :=
    [⟨"Old", ⟨wordPattern "Old", 0, []⟩, .text "$9"⟩,
      ⟨"^Game", ⟨.seq (.anchor .textStart) (wordPattern "Game"), 0, []⟩, .text "."⟩,
      ⟨"Menu", ⟨wordPattern "Menu", 0, []⟩, .text "Menus"⟩,
      ⟨"Global", ⟨wordPattern "Global", 0, []⟩, .text "root"⟩]

def gameSpaces : List String :=
  ["", "Old.Desk", "Global", "Game.Menu", "Old.Desk", "Game", "Plain."]

/-- No namespace is the global one, a failure stays a failure, and a name of dots alone is none. -/
def gameAnswers : List (Except Error String) :=
  [.ok "root", .error (.rejected [] (.invalidReplacement "$9" "Old")), .ok "root", .ok "Menu",
    .error (.rejected [] (.invalidReplacement "$9" "Old")), .ok "Global", .ok "Plain"]

theorem gameResolver_answers :
    Resolver.ofRules gameRules = .ok gameResolver ∧
      gameResolver.resolveAll gameSpaces = gameAnswers ∧
      List.Forall₂ (fun space answer =>
        ∀ outcome, Resolves gameResolver.rules space outcome ↔ answer = outcome)
          gameSpaces gameAnswers := by
  obtain ⟨hmade, hanswers⟩ : Resolver.ofRules gameRules = .ok gameResolver ∧
      gameResolver.resolveAll gameSpaces = gameAnswers := by
    decide +kernel
  exact ⟨hmade, hanswers, hanswers ▸ (answers_by_first_rule hmade).2.1 gameSpaces⟩

end ScriptBridge.Namespace
