import ScriptBridge.Namespace.Resolver

/-!
# What a resolver answers

A resolver remembers its answers, and what it remembers never changes what it answers. Every answer has
a segment.
-/

namespace ScriptBridge.Namespace

namespace Resolver

/-- What a resolver answers for a namespace. -/
def answer (resolver : Resolver) (space : String) : Except Error String :=
  (resolver.resolve space).1

/-- The resolver after it has been asked for a namespace. -/
def asked (resolver : Resolver) (space : String) : Resolver :=
  (resolver.resolve space).2

/-- The answer is remembered, or found by the rules. -/
theorem answer_eq (resolver : Resolver) (space : String) :
    resolver.answer space = (match resolver.resolved.lookup (orGlobal space) with
      | some target => .ok target
      | none => Namespace.resolve resolver.rules (orGlobal space)) := by
  unfold answer Resolver.resolve
  cases hlookup : resolver.resolved.lookup (orGlobal space) with
  | some target => simp only [hlookup]
  | none =>
    simp only [hlookup]
    cases hresolve : Namespace.resolve resolver.rules (orGlobal space) <;> rfl

/-- Asking adds at most the answer to what is remembered, where nothing was remembered before. -/
theorem asked_eq (resolver : Resolver) (space : String) :
    resolver.asked space = resolver ∨
      ∃ target, resolver.resolved.lookup (orGlobal space) = none ∧
        Namespace.resolve resolver.rules (orGlobal space) = .ok target ∧
        resolver.asked space =
          { resolver with resolved := (orGlobal space, target) :: resolver.resolved } := by
  unfold asked Resolver.resolve
  cases hlookup : resolver.resolved.lookup (orGlobal space) with
  | some target => exact .inl (by simp only [hlookup])
  | none =>
    simp only [hlookup]
    cases hresolve : Namespace.resolve resolver.rules (orGlobal space) with
    | error e => exact .inl rfl
    | ok target => exact .inr ⟨target, trivial, rfl, rfl⟩

theorem rules_asked (resolver : Resolver) (space : String) :
    (resolver.asked space).rules = resolver.rules := by
  rcases asked_eq resolver space with hsame | ⟨target, -, -, hasked⟩
  · rw [hsame]
  · rw [hasked]

/-- What has been asked before does not change an answer. -/
theorem answer_asked (resolver : Resolver) (space other : String) :
    (resolver.asked space).answer other = resolver.answer other := by
  rcases asked_eq resolver space with hsame | ⟨target, hlookup, hresolve, hasked⟩
  · rw [hsame]
  · rw [hasked, answer_eq, answer_eq]
    by_cases heq : orGlobal other = orGlobal space
    · simp only [heq, List.lookup_cons_self, hlookup, hresolve]
    · have hne : (orGlobal other == orGlobal space) = false := by simpa using heq
      simp only [List.lookup_cons, hne]

/-- A resolver made from some rules, and asked for some namespaces since. -/
inductive Reachable : Resolver → Prop
  | made {rules : List NamespaceRule} {resolver : Resolver} :
    ofRules rules = .ok resolver → Reachable resolver
  | asked {resolver : Resolver} (space : String) :
    Reachable resolver → Reachable (resolver.asked space)

theorem resolved_of_ofRules {rules : List NamespaceRule} {resolver : Resolver}
    (hmade : ofRules rules = .ok resolver) : resolver.resolved = [] := by
  unfold ofRules at hmade
  cases hrules : rules.mapM CompiledRule.ofRule with
  | error e => simp [hrules, bind, Except.bind] at hmade
  | ok compiled =>
    simp only [hrules, bind, Except.bind, pure, Except.pure, Except.ok.injEq] at hmade
    exact hmade ▸ rfl

/-- What is remembered is what the rules say. -/
theorem Reachable.resolve_of_mem {resolver : Resolver} (hreachable : resolver.Reachable)
    {space target : String} (hmem : (space, target) ∈ resolver.resolved) :
    Namespace.resolve resolver.rules space = .ok target := by
  induction hreachable with
  | made hmade =>
    rw [resolved_of_ofRules hmade] at hmem
    cases hmem
  | @asked resolver asked _ ih =>
    rcases asked_eq resolver asked with hsame | ⟨found, -, hresolve, hasked⟩
    · rw [hsame] at hmem ⊢
      exact ih hmem
    · rw [hasked] at hmem ⊢
      rcases List.mem_cons.1 hmem with heq | hmem
      · cases heq
        exact hresolve
      · exact ih hmem

theorem Reachable.answer_eq_resolve {resolver : Resolver} (hreachable : resolver.Reachable)
    (space : String) :
    resolver.answer space = Namespace.resolve resolver.rules (orGlobal space) := by
  rw [answer_eq]
  cases hlookup : resolver.resolved.lookup (orGlobal space) with
  | none => rfl
  | some target =>
    obtain ⟨before, after, happend, -⟩ := List.lookup_eq_some_iff.1 hlookup
    have hmem : (orGlobal space, target) ∈ resolver.resolved := by
      rw [happend]
      simp
    exact (hreachable.resolve_of_mem hmem).symm

end Resolver

/-! ### Segments of an answer -/

theorem head_trimWhile_ne_dot {text rest : List Char} {c : Char}
    (htrim : Text.trimWhile (· == '.') text = c :: rest) : c ≠ '.' := by
  rintro rfl
  have hprefix : '.' :: rest <+: text.dropWhile (· == '.') := by
    rw [← htrim, Text.trimWhile, Text.dropEndWhile, ← List.reverse_suffix, List.reverse_reverse]
    exact List.dropWhile_suffix _
  obtain ⟨tail, htail⟩ := hprefix
  have hhead := List.head?_dropWhile_not (· == '.') text
  simp [← htail] at hhead

theorem segments_ne_nil_of_head {c : Char} {rest : List Char} (hne : c ≠ '.') :
    segments (String.ofList (c :: rest)) ≠ [] := by
  unfold segments Text.dottedParts
  rw [String.toList_ofList, Text.splitAtChar, if_neg (by simpa using hne)]
  cases hsplit : Text.splitAtChar '.' rest with
  | nil => exact absurd hsplit (Text.splitAtChar_ne_nil _ _)
  | cons part others =>
    intro hnil
    simp at hnil

theorem segments_trimmed_ne_nil (space : String) : segments (trimmed space) ≠ [] := by
  unfold trimmed
  cases htrim : Text.trimWhile (· == '.') space.toList with
  | nil => decide
  | cons c rest =>
    have hne := head_trimWhile_ne_dot htrim
    have hfull : (String.ofList (c :: rest)).isEmpty = false := by simp
    rw [orGlobal, hfull]
    exact segments_ne_nil_of_head hne

theorem exists_trimmed_of_resolve {rules : List CompiledRule} {space target : String}
    (hresolve : Namespace.resolve rules space = .ok target) : ∃ text, target = trimmed text := by
  unfold Namespace.resolve at hresolve
  simp only at hresolve
  split at hresolve
  · rename_i rule _
    cases hreplace : rule.replace (orGlobal space) with
    | error e => simp [hreplace, Except.map] at hresolve
    | ok replaced =>
      simp only [hreplace, Except.map, Except.ok.injEq] at hresolve
      exact ⟨replaced, hresolve.symm⟩
  · exact ⟨orGlobal space, (Except.ok.inj hresolve).symm⟩

theorem Resolver.Reachable.segments_ne_nil {resolver : Resolver} (hreachable : resolver.Reachable)
    {space target : String} (hanswer : resolver.answer space = .ok target) :
    segments target ≠ [] := by
  rw [hreachable.answer_eq_resolve] at hanswer
  obtain ⟨text, rfl⟩ := exists_trimmed_of_resolve hanswer
  exact segments_trimmed_ne_nil text

end ScriptBridge.Namespace
