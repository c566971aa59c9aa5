import ScriptBridge.Proofs.Namespace.Answers
import ScriptBridge.Proofs.Text.Split

/-!
# Namespaces with nothing between two dots

A namespace is canonical if it is its segments with a dot between each two. What a resolver answers has
no dots at its ends, but it keeps the dots that meet inside, for instance around a segment that a rule
has taken away.
-/

namespace ScriptBridge.Namespace

/-- A namespace is its segments, joined by dots. -/
def Canonical (space : String) : Prop :=
  Text.dotted (segments space) = space

/-- Two dots meet somewhere in a namespace. -/
def HasGap (space : String) : Prop :=
  ['.', '.'] <:+: space.toList

variable {space other target : String}

theorem segments_eq_dottedParts_iff : segments space = Text.dottedParts space ↔
    "" ∉ Text.dottedParts space := by
  rw [segments, List.filter_eq_self]
  constructor
  · intro hfull hempty
    simpa using hfull "" hempty
  · intro hempty part hpart
    have hne : part ≠ "" := fun heq => hempty (heq ▸ hpart)
    simpa using hne

theorem canonical_iff (hne : segments space ≠ []) :
    Canonical space ↔ "" ∉ Text.dottedParts space := by
  rw [← segments_eq_dottedParts_iff]
  constructor
  · intro hcanonical
    have hdots : ∀ segment ∈ segments space, '.' ∉ segment.toList := fun segment hsegment =>
      Text.not_mem_of_mem_dottedParts (List.mem_filter.1 hsegment).1
    have hparts := Text.dottedParts_dotted hne hdots
    rw [hcanonical] at hparts
    exact hparts.symm
  · intro hsegments
    rw [Canonical, hsegments, Text.dotted_dottedParts]

/-- Canonical namespaces are told apart by their segments. -/
theorem Canonical.eq_of_segments_eq (hspace : Canonical space) (hother : Canonical other)
    (hsegments : segments space = segments other) : space = other := by
  rw [← hspace, hsegments, hother]

/-- What stands in a namespace has a path of segments, and the last of them is its name, if the
namespace is canonical and only then. -/
theorem dotted_segments_append_iff (hne : segments space ≠ []) (name : String) :
    Text.dotted (segments space ++ [name]) = space ++ "." ++ name ↔ Canonical space := by
  rw [Text.dotted, String.intercalate_append_of_ne_nil hne (List.cons_ne_nil _ _),
    String.intercalate_singleton, String.append_left_inj, String.append_left_inj]
  rfl

/-! ### Answers -/

theorem last_trimWhile_ne_dot (text : List Char) :
    ¬ ['.'] <:+ Text.trimWhile (· == '.') text := by
  rw [Text.trimWhile, Text.dropEndWhile, ← List.reverse_prefix, List.reverse_reverse]
  rintro ⟨rest, hrest⟩
  have hhead := List.head?_dropWhile_not (· == '.') (text.dropWhile (· == '.')).reverse
  simp [← hrest] at hhead

/-- A namespace without dots at its ends is canonical if no two dots meet inside. -/
theorem canonical_trimmed_iff (text : String) :
    Canonical (trimmed text) ↔ ¬ HasGap (trimmed text) := by
  have hne := segments_trimmed_ne_nil text
  rw [canonical_iff hne, HasGap]
  refine not_congr ?_
  unfold trimmed
  cases htrim : Text.trimWhile (· == '.') text.toList with
  | nil => decide
  | cons c rest =>
    have hfull : (String.ofList (c :: rest)).isEmpty = false := by simp
    have hend := last_trimWhile_ne_dot text.toList
    rw [htrim] at hend
    rw [orGlobal, hfull]
    refine Text.empty_mem_dottedParts_iff (by simp) ?_ (by simpa using hend)
    simpa using head_trimWhile_ne_dot htrim

/-- An answer is not empty, and it is canonical if and only if no two dots meet in it. -/
theorem Resolver.Reachable.canonical_iff {resolver : Resolver} (hreachable : resolver.Reachable)
    (hanswer : resolver.answer space = .ok target) :
    target ≠ "" ∧ (Canonical target ↔ ¬ HasGap target) := by
  have hne := hreachable.segments_ne_nil hanswer
  rw [hreachable.answer_eq_resolve] at hanswer
  obtain ⟨text, rfl⟩ := exists_trimmed_of_resolve hanswer
  refine ⟨fun hempty => hne ?_, canonical_trimmed_iff text⟩
  rw [hempty]
  rfl

end ScriptBridge.Namespace
