import Mathlib
import ScriptBridge.Proofs.Surface.FirstDeclaration
import ScriptBridge.Proofs.TypeRef.KnownNames
import ScriptBridge.TypeExpr

/-!
# What names refer to

A name refers to a type parameter before a declared type, to a declared type of a nearer namespace before
one of a farther, and to a known type only if it is not declared. Nothing else that is declared matters.
-/

namespace ScriptBridge

/-- A name is written in an expression, with some number of arguments. -/
inductive TypeExpr.Uses : String → Nat → TypeExpr → Prop
  | here {name : String} {args : List TypeExpr} {suffixes : List Suffix} :
    Uses name args.length (.mk name args suffixes)
  | inside {name other : String} {arity : Nat} {args : List TypeExpr} {suffixes : List Suffix}
    {arg : TypeExpr} :
    arg ∈ args → Uses name arity arg → Uses name arity (.mk other args suffixes)

namespace Registry

/-! ### The nearest declaration -/

/-- The parts of a namespace; the empty one has none. -/
def partsOf (space : String) : List String :=
  if space.isEmpty then [] else Text.dottedParts space

/-- The key that a name with some number of arguments has in a namespace of some parts. -/
def keyIn (parts : List String) (name : String) (arity : Nat) : String :=
  TypeIdentity.keyOf (Text.dotted (parts ++ [name])) arity

/-- A declared type has the name in a namespace or in one around it, and nothing has that name nearer. -/
def Nearest (registry : Registry) (name space : String) (arity : Nat) (decl : TypeDecl) : Prop :=
  ∃ outer, outer <+: partsOf space ∧ registry.find? (keyIn outer name arity) = some decl ∧
    ∀ longer, longer <+: partsOf space → outer.length < longer.length →
      registry.find? (keyIn longer name arity) = none

section Lookup

variable {registry other : Registry} {name space : String} {arity : Nat} {decl : TypeDecl}

/-- What is found first from the last number down is what is found at the largest number. -/
theorem findSome?_reverse_range {β : Type} {f : Nat → Option β} {n : Nat} {b : β} :
    (List.range n).reverse.findSome? f = some b ↔
      ∃ k < n, f k = some b ∧ ∀ j, k < j → j < n → f j = none := by
  induction n with
  | zero => simp
  | succ n ih =>
    rw [List.range_succ, List.reverse_append, List.reverse_singleton, List.singleton_append,
      List.findSome?_cons]
    cases hlast : f n with
    | some last =>
      constructor
      · intro hfound
        obtain rfl := Option.some.inj hfound
        exact ⟨n, n.lt_succ_self, hlast, fun j _ _ => by omega⟩
      · rintro ⟨k, hk, hfound, hnone⟩
        obtain rfl | hlt := (Nat.lt_succ_iff.1 hk).eq_or_lt
        · exact hlast.symm.trans hfound
        · exact absurd (hnone n hlt n.lt_succ_self) (by simp [hlast])
    | none =>
      rw [ih]
      constructor
      · rintro ⟨k, hk, hfound, hnone⟩
        refine ⟨k, hk.trans n.lt_succ_self, hfound, fun j hkj hj => ?_⟩
        obtain rfl | hlt := (Nat.lt_succ_iff.1 hj).eq_or_lt
        · exact hlast
        · exact hnone j hkj hlt
      · rintro ⟨k, hk, hfound, hnone⟩
        obtain rfl | hlt := (Nat.lt_succ_iff.1 hk).eq_or_lt
        · exact absurd hfound (by simp [hlast])
        · exact ⟨k, hlt, hfound, fun j hkj hj => hnone j hkj (hj.trans n.lt_succ_self)⟩

theorem lookup?_eq_findSome? (registry : Registry) (name space : String) (arity : Nat) :
    registry.lookup? name space arity =
      (List.range ((partsOf space).length + 1)).reverse.findSome? fun count =>
        registry.find? (keyIn ((partsOf space).take count) name arity) := by
  unfold lookup? candidates enclosing
  rw [List.map_map, List.findSome?_map]
  rfl

/-- What is looked up is what is nearest. -/
theorem lookup?_eq_some_iff :
    registry.lookup? name space arity = some decl ↔ registry.Nearest name space arity decl := by
  rw [lookup?_eq_findSome?, findSome?_reverse_range]
  constructor
  · rintro ⟨count, hcount, hfound, hnone⟩
    have hlength : ((partsOf space).take count).length = count :=
      List.length_take_of_le (Nat.lt_succ_iff.1 hcount)
    refine ⟨_, List.take_prefix count _, hfound, fun longer hlonger hlt => ?_⟩
    have hbound := hlonger.length_le
    rw [hlength] at hlt
    rw [List.prefix_iff_eq_take.1 hlonger]
    exact hnone _ hlt (Nat.lt_succ_iff.2 hbound)
  · rintro ⟨outer, houter, hfound, hnone⟩
    refine ⟨outer.length, Nat.lt_succ_iff.2 houter.length_le, ?_, fun count hlt hcount => ?_⟩
    · rwa [← List.prefix_iff_eq_take.1 houter]
    · refine hnone _ (List.take_prefix count _) ?_
      rwa [List.length_take_of_le (Nat.lt_succ_iff.1 hcount)]

theorem lookup?_eq_none_iff :
    registry.lookup? name space arity = none ↔
      ∀ decl, ¬ registry.Nearest name space arity decl := by
  simp only [Option.eq_none_iff_forall_ne_some, ne_eq, lookup?_eq_some_iff]

/-- What is looked up depends only on what is found under the candidate keys. -/
theorem lookup?_congr
    (hfind : ∀ key ∈ candidates name space arity, other.find? key = registry.find? key) :
    other.lookup? name space arity = registry.lookup? name space arity := by
  rw [lookup?, lookup?, ← List.head?_filterMap, List.filterMap_congr hfind, List.head?_filterMap]

end Lookup

/-! ### What a name refers to -/

/-- What a name with resolved arguments refers to. Each case applies where those before it do not. -/
inductive Denotes (registry : Registry) (space : String) (parameters : List String) (name : String)
    (args : List TypeRef) : TypeRef → Prop
  | parameter :
    args = [] → name ∈ parameters →
    Denotes registry space parameters name args (.parameter name)
  | custom {decl : TypeDecl} :
    args = [] → name ∉ parameters → registry.Nearest name space 0 decl →
    Denotes registry space parameters name args (.custom decl.identity)
  | generic {decl : TypeDecl} :
    args ≠ [] → registry.Nearest name space args.length decl →
    Denotes registry space parameters name args (.generic decl.identity args)
  | known {full : String} :
    ¬ (args = [] ∧ name ∈ parameters) → (∀ decl, ¬ registry.Nearest name space args.length decl) →
    Known.StandsFor name full →
    Denotes registry space parameters name args (Known.apply full args)
  | unknown :
    ¬ (args = [] ∧ name ∈ parameters) → (∀ decl, ¬ registry.Nearest name space args.length decl) →
    (∀ full, ¬ Known.StandsFor name full) →
    Denotes registry space parameters name args (.unknown name args)

section Names

variable {registry : Registry} {space name : String} {parameters : List String}
  {args : List TypeRef} {ref : TypeRef}

theorem denotes_named : registry.Denotes space parameters name args
    (registry.named space parameters name args) := by
  unfold named
  split
  · rename_i hparameter
    rw [Bool.and_eq_true, List.isEmpty_iff, List.contains_iff_mem] at hparameter
    exact .parameter hparameter.1 hparameter.2
  · rename_i hparameter
    rw [Bool.and_eq_true, List.isEmpty_iff, List.contains_iff_mem] at hparameter
    split
    · rename_i decl hlookup
      split
      · rename_i hempty
        have hnil := List.isEmpty_iff.1 hempty
        rw [hnil] at hlookup
        exact .custom hnil (fun hmem => hparameter ⟨hnil, hmem⟩) (lookup?_eq_some_iff.1 hlookup)
      · rename_i hempty
        exact .generic (fun hnil => hempty (List.isEmpty_iff.2 hnil))
          (lookup?_eq_some_iff.1 hlookup)
    · rename_i hlookup
      have hundeclared := lookup?_eq_none_iff.1 hlookup
      split
      · rename_i full hfull
        exact .known hparameter hundeclared (Known.fullName?_eq_some_iff.1 hfull)
      · rename_i hfull
        exact .unknown hparameter hundeclared (Known.fullName?_eq_none_iff.1 hfull)

theorem named_of_denotes (hdenotes : registry.Denotes space parameters name args ref) :
    registry.named space parameters name args = ref := by
  unfold named
  cases hdenotes with
  | parameter hnil hmem => rw [if_pos (by simp [hnil, hmem])]
  | custom hnil hmem hnearest =>
    subst hnil
    rw [if_neg (by simp [hmem]), List.length_nil, lookup?_eq_some_iff.2 hnearest]
    rfl
  | generic hne hnearest =>
    rw [if_neg (by simp [hne]), lookup?_eq_some_iff.2 hnearest]
    exact if_neg (by simp [hne])
  | known hparameter hundeclared hstands =>
    rw [if_neg (by simpa using hparameter), lookup?_eq_none_iff.2 hundeclared,
      Known.fullName?_eq_some_iff.2 hstands]
  | unknown hparameter hundeclared hunknown =>
    rw [if_neg (by simpa using hparameter), lookup?_eq_none_iff.2 hundeclared,
      Known.fullName?_eq_none_iff.2 hunknown]

theorem named_eq_iff : registry.named space parameters name args = ref ↔
    registry.Denotes space parameters name args ref :=
  ⟨fun heq => heq ▸ denotes_named, named_of_denotes⟩

theorem resolveAll_eq_map (registry : Registry) (space : String) (parameters : List String)
    (exprs : List TypeExpr) :
    registry.resolveAll space parameters exprs = exprs.map (registry.resolve space parameters) := by
  induction exprs with
  | nil => rfl
  | cons expr exprs ih => rw [resolveAll, ih, List.map_cons]

end Names

/-! ### Declarations that are not asked for -/

section Congruence

variable {registry other : Registry} {space : String} {parameters : List String}

mutual

/-- What an expression refers to depends only on what is looked up for the names in it. -/
theorem resolve_congr : ∀ expr : TypeExpr,
    (∀ name arity, expr.Uses name arity →
      other.lookup? name space arity = registry.lookup? name space arity) →
    other.resolve space parameters expr = registry.resolve space parameters expr
  | .mk name args suffixes, hlookup => by
    have hargs := resolveAll_congr args fun arg harg name arity huses =>
      hlookup name arity (.inside harg huses)
    have hlength : (registry.resolveAll space parameters args).length = args.length := by
      rw [resolveAll_eq_map, List.length_map]
    rw [resolve, resolve, hargs, named, named, hlength, hlookup name args.length .here]

theorem resolveAll_congr : ∀ exprs : List TypeExpr,
    (∀ expr ∈ exprs, ∀ name arity, expr.Uses name arity →
      other.lookup? name space arity = registry.lookup? name space arity) →
    other.resolveAll space parameters exprs = registry.resolveAll space parameters exprs
  | [], _ => rfl
  | expr :: exprs, hlookup => by
    obtain ⟨hfirst, hothers⟩ := List.forall_mem_cons.1 hlookup
    rw [resolveAll, resolveAll, resolve_congr expr hfirst, resolveAll_congr exprs hothers]

end

theorem decls_foldl_add (registry : Registry) (added : List TypeDecl) :
    (added.foldl add registry).decls = registry.decls ++ added := by
  induction added generalizing registry with
  | nil => rw [List.foldl_nil, List.append_nil]
  | cons decl added ih =>
    rw [List.foldl_cons, ih, add, List.append_assoc, List.singleton_append]

/-- Declarations of other keys do not change what is found under a key. -/
theorem find?_foldl_add {added : List TypeDecl} {key : String}
    (hother : ∀ decl ∈ added, decl.key ≠ .text key) :
    (added.foldl add registry).find? key = registry.find? key := by
  have hnone : added.find? (·.key == .text key) = none :=
    List.find?_eq_none.2 fun decl hdecl => by simpa using hother decl hdecl
  rw [find?, decls_foldl_add, List.find?_append, hnone, Option.or_none]
  rfl

/-- A name with arguments refers to what comes first in one order of precedence, and declarations whose
keys are not among the candidates of a name in an expression leave what it refers to as it is. -/
theorem resolve_by_precedence (registry : Registry) (space : String) (parameters : List String) :
    (∀ (name : String) (args : List TypeExpr) (ref : TypeRef),
      registry.resolve space parameters (.mk name args []) = ref ↔
        registry.Denotes space parameters name (args.map (registry.resolve space parameters)) ref) ∧
    ∀ (expr : TypeExpr) (added : List TypeDecl),
      (∀ decl ∈ added, ∀ name arity, expr.Uses name arity →
        ∀ key ∈ candidates name space arity, decl.key ≠ .text key) →
      (added.foldl add registry).resolve space parameters expr =
        registry.resolve space parameters expr := by
  refine ⟨fun name args ref => ?_, fun expr added hother => ?_⟩
  · rw [resolve, List.foldl_nil, resolveAll_eq_map, named_eq_iff]
  · refine resolve_congr expr fun name arity huses => lookup?_congr fun key hkey => ?_
    exact find?_foldl_add fun decl hdecl => hother decl hdecl name arity huses key hkey

end Congruence

end Registry

/-! ### A list of a port -/

/-- A list that is not the known one. -/
def portListDecl : TypeDecl where
  kind := .object
  space := .text "port"
  name := .text "List"
  parameters := [.text "T"]
  members := []
  items := []
  bases := []
  isValueType := false

def portRegistry : Registry where
  decls := [portListDecl]

/-- A list of pairs, nearer to the dock. -/
def dockListDecl : TypeDecl :=
  { portListDecl with space := .text "port.dock", parameters := [.text "K", .text "V"] }

/-- `List<T>`. -/
def listOfT : TypeExpr :=
  .mk "List" [.mk "T" [] []] []

theorem dockList_not_asked_for :
    (∀ decl ∈ [dockListDecl], ∀ name arity, listOfT.Uses name arity →
        ∀ key ∈ Registry.candidates name "port.dock" arity, decl.key ≠ .text key) ∧
      ([dockListDecl].foldl Registry.add portRegistry).resolve "port.dock" ["T"] listOfT =
        .generic portListDecl.identity [.parameter "T"] := by
  have hother : ∀ decl ∈ [dockListDecl], ∀ name arity, listOfT.Uses name arity →
      ∀ key ∈ Registry.candidates name "port.dock" arity, decl.key ≠ .text key := by
    intro decl hdecl name arity huses
    obtain rfl := List.mem_singleton.1 hdecl
    cases huses with
    | here => decide +kernel
    | inside harg huses =>
      obtain rfl := List.mem_singleton.1 harg
      cases huses with
      | here => decide +kernel
      | inside hmem _ => cases hmem
  obtain ⟨hdenotes, hadded⟩ := portRegistry.resolve_by_precedence "port.dock" ["T"]
  have hparameter : portRegistry.resolve "port.dock" ["T"] (.mk "T" [] []) = .parameter "T" :=
    (hdenotes "T" [] _).2 (.parameter rfl List.mem_cons_self)
  have hlist : portRegistry.resolve "port.dock" ["T"] listOfT =
      .generic portListDecl.identity [.parameter "T"] := by
    have hnearest : portRegistry.Nearest "List" "port.dock" 1 portListDecl :=
      Registry.lookup?_eq_some_iff.1 (by decide +kernel)
    have hgeneric := (hdenotes "List" [.mk "T" [] []] _).2 (.generic (by simp) hnearest)
    rwa [List.map_singleton, hparameter] at hgeneric
  exact ⟨hother, (hadded listOfT _ hother).trans hlist⟩

end ScriptBridge
