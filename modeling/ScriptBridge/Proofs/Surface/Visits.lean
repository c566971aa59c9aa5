import ScriptBridge.Proofs.Surface.Reruns

/-!
# Visits

The search for declared types as it branches: what a type refers to is visited inside the visit of the
type, and the next type after that. A visit is a finite tree, however the types refer to one another. It
is no deeper than there are declarations that have not been found, since each type on the way down is
found before what it refers to is visited. For the same reason no declaration is described twice in the
visits of one run.
-/

namespace ScriptBridge

open Namespace

/-! ### Visits of types -/

def build (registry : Registry) (identity : TypeIdentity) (decl : TypeDecl) : Discover DeclaredType :=
  (resolveSpace decl.space).andThen fun scriptSpace =>
    Discover.lift (describe registry identity decl scriptSpace)

/-- Visits of types one after another, none deeper than a number, with the keys of the declarations that
are described in them and with what they come to. -/
inductive Visits (registry : Registry) :
    Nat → List TypeIdentity → Discovery → List String → Except Error Unit × Discovery → Prop
  | done {depth : Nat} {found : Discovery} : Visits registry depth [] found [] (.ok (), found)
  | passed {depth : Nat} {identity : TypeIdentity} {rest : List TypeIdentity} {found : Discovery}
      {built : List String} {outcome : Except Error Unit × Discovery} :
    found.knows identity.key = true ∨ registry.find? identity.key = none →
    Visits registry depth rest found built outcome →
    Visits registry depth (identity :: rest) found built outcome
  | unbuilt {depth : Nat} {identity : TypeIdentity} {rest : List TypeIdentity}
      {found after : Discovery} {decl : TypeDecl} {e : Error} :
    found.knows identity.key = false →
    registry.find? identity.key = some decl →
    build registry identity decl found = (.error e, after) →
    Visits registry (depth + 1) (identity :: rest) found [identity.key] (.error e, after)
  | stopped {depth : Nat} {identity : TypeIdentity} {rest : List TypeIdentity}
      {found middle after : Discovery} {decl : TypeDecl} {type : DeclaredType} {inner : List String}
      {e : Error} :
    found.knows identity.key = false →
    registry.find? identity.key = some decl →
    build registry identity decl found = (.ok type, middle) →
    Visits registry depth type.references (middle.addType type) inner (.error e, after) →
    Visits registry (depth + 1) (identity :: rest) found (identity.key :: inner) (.error e, after)
  | visited {depth : Nat} {identity : TypeIdentity} {rest : List TypeIdentity}
      {found middle after : Discovery} {decl : TypeDecl} {type : DeclaredType}
      {inner later : List String} {outcome : Except Error Unit × Discovery} :
    found.knows identity.key = false →
    registry.find? identity.key = some decl →
    build registry identity decl found = (.ok type, middle) →
    Visits registry depth type.references (middle.addType type) inner (.ok (), after) →
    Visits registry (depth + 1) rest after later outcome →
    Visits registry (depth + 1) (identity :: rest) found (identity.key :: inner ++ later) outcome

variable {registry : Registry} {identity : TypeIdentity} {decl : TypeDecl} {found after : Discovery}
  {type : DeclaredType} {built : List String} {outcome : Except Error Unit × Discovery} {depth : Nat}

namespace Discover

variable {α β γ : Type} {step : Discover α} {next : α → Discover β}

theorem andThen_assoc (step : Discover α) (next : α → Discover β) (last : β → Discover γ) :
    (step.andThen next).andThen last = step.andThen fun a => (next a).andThen last := by
  funext found
  unfold andThen
  rcases step found with ⟨e | a, after⟩ <;> rfl

theorem andThen_eq_ok_iff {b : β} :
    step.andThen next found = (.ok b, after) ↔
      ∃ a middle, step found = (.ok a, middle) ∧ next a middle = (.ok b, after) := by
  unfold andThen
  rcases step found with ⟨e | a, middle⟩ <;> simp

/-- The step finds no types, whether it fails or not. -/
def FindsNoTypes (step : Discover α) : Prop :=
  ∀ found, (step found).2.types = found.types

theorem findsNoTypes_lift (result : Except Error α) : (lift result).FindsNoTypes := fun _ => rfl

theorem findsNoTypes_resolveSpace (given : Value) : FindsNoTypes (resolveSpace given) := by
  intro found
  cases given <;> rfl

theorem FindsNoTypes.andThen (hstep : step.FindsNoTypes) (hnext : ∀ a, (next a).FindsNoTypes) :
    (step.andThen next).FindsNoTypes := by
  intro found
  cases hresult : (step found).1 with
  | error e => rw [andThen_of_error hresult, hstep]
  | ok a => rw [andThen_of_ok hresult, hnext, hstep]

end Discover

theorem findsNoTypes_build (registry : Registry) (identity : TypeIdentity) (decl : TypeDecl) :
    (build registry identity decl).FindsNoTypes :=
  (Discover.findsNoTypes_resolveSpace decl.space).andThen fun _ => Discover.findsNoTypes_lift _

theorem identity_of_build (hbuild : build registry identity decl found = (.ok type, after)) :
    type.identity = identity := by
  obtain ⟨scriptSpace, middle, -, hdescribe⟩ := Discover.andThen_eq_ok_iff.1 hbuild
  exact identity_of_describe (congrArg Prod.fst hdescribe)

/-- A type that is neither known nor undeclared is built, and then what it refers to is pending before the
rest. -/
theorem discover_cons_of_build (rest : List TypeIdentity)
    (hfresh : found.knows identity.key = false) (hfind : registry.find? identity.key = some decl) :
    discover registry (identity :: rest) found =
      (build registry identity decl).andThen (fun type after =>
        discover registry (type.references ++ rest) (after.addType type)) found := by
  rw [discover_cons_of_fresh rest hfresh hfind, build, Discover.andThen_assoc]

/-- To have a list of types pending is to visit its first part, and then the rest. -/
theorem discover_append (first rest : List TypeIdentity) (found : Discovery) :
    discover registry (first ++ rest) found =
      (discover registry first).andThen (fun _ => discover registry rest) found := by
  induction first, found using discover.induct registry with
  | case1 found => rw [Discover.andThen_of_ok (by rw [discover_nil]), discover_nil, List.nil_append]
  | case2 found identity first hknown ih =>
    have hpassed : discover registry (identity :: first) found = discover registry first found :=
      discover_cons_of_passed first (.inl hknown)
    rw [List.cons_append, discover_cons_of_passed _ (.inl hknown), ih]
    simp only [Discover.andThen, hpassed]
  | case3 found identity first hknown hnone ih =>
    have hpassed : discover registry (identity :: first) found = discover registry first found :=
      discover_cons_of_passed first (.inr hnone)
    rw [List.cons_append, discover_cons_of_passed _ (.inr hnone), ih]
    simp only [Discover.andThen, hpassed]
  | case4 found identity first hknown decl hfind after e hspace =>
    have hfresh : found.knows identity.key = false := by simpa using hknown
    rw [List.cons_append, discover_cons_of_fresh _ hfresh hfind]
    simp only [Discover.andThen, discover_cons_of_fresh _ hfresh hfind, hspace]
  | case5 found identity first hknown decl hfind after scriptSpace hspace e hdescribe =>
    have hfresh : found.knows identity.key = false := by simpa using hknown
    rw [List.cons_append, discover_cons_of_fresh _ hfresh hfind]
    simp only [Discover.andThen, Discover.lift, discover_cons_of_fresh _ hfresh hfind, hspace, hdescribe]
  | case6 found identity first hknown decl hfind after scriptSpace hspace type hdescribe ih =>
    have hfresh : found.knows identity.key = false := by simpa using hknown
    obtain ⟨space, -, -, rfl⟩ := resolveSpace_eq_ok_iff.1 hspace
    rw [List.append_assoc] at ih
    rw [List.cons_append, discover_cons_of_fresh _ hfresh hfind]
    simp only [Discover.andThen, Discover.lift, discover_cons_of_fresh _ hfresh hfind, hspace,
      hdescribe] at ih ⊢
    exact ih

/-! ### Visits end -/

theorem Discovery.knows_append {types : List DeclaredType} (hgrown : after.types = found.types ++ types)
    {key : String} (hknows : found.knows key = true) : after.knows key = true := by
  rw [knows, hgrown, List.any_append]
  exact Bool.or_eq_true_iff.2 (.inl hknows)

theorem length_undiscovered_append_le (registry : Registry) (types more : List DeclaredType) :
    (undiscovered registry (types ++ more)).length ≤ (undiscovered registry types).length := by
  unfold undiscovered
  apply List.Sublist.length_le
  apply List.monotone_filter_right
  intro decl hdecl
  simp only [List.any_append, Bool.not_or, Bool.and_eq_true] at hdecl
  exact hdecl.1

/-- Visits only add to what has been found. -/
theorem Visits.exists_types {pending : List TypeIdentity}
    (hvisits : Visits registry depth pending found built outcome) :
    ∃ types, outcome.2.types = found.types ++ types := by
  induction hvisits with
  | done => exact ⟨[], (List.append_nil _).symm⟩
  | passed _ _ ih => exact ih
  | @unbuilt _ identity _ found after decl e _ _ hbuild =>
    have htypes := findsNoTypes_build registry identity decl found
    rw [hbuild] at htypes
    exact ⟨[], by rw [htypes, List.append_nil]⟩
  | @stopped _ identity _ found middle _ decl type _ _ _ _ hbuild _ ih =>
    have htypes := findsNoTypes_build registry identity decl found
    rw [hbuild] at htypes
    obtain ⟨types, htypes'⟩ := ih
    refine ⟨type :: types, ?_⟩
    rw [htypes', Discovery.types_addType, htypes, List.append_assoc, List.singleton_append]
  | @visited _ identity _ found middle _ decl type _ _ _ _ _ hbuild _ _ ihInner ihRest =>
    have htypes := findsNoTypes_build registry identity decl found
    rw [hbuild] at htypes
    obtain ⟨types, hinner⟩ := ihInner
    obtain ⟨later, hrest⟩ := ihRest
    refine ⟨type :: types ++ later, ?_⟩
    rw [hrest, hinner, Discovery.types_addType, htypes]
    simp only [List.append_assoc, List.cons_append, List.nil_append]

theorem length_undiscovered_pos (hfresh : found.knows identity.key = false)
    (hfind : registry.find? identity.key = some decl) :
    0 < (undiscovered registry found.types).length := by
  apply List.length_pos_of_mem
  refine List.mem_filter.2 ⟨List.mem_of_find?_eq_some hfind, ?_⟩
  rw [Registry.key_of_find? hfind]
  simpa [Discovery.knows] using hfresh

theorem length_undiscovered_build (hfresh : found.knows identity.key = false)
    (hfind : registry.find? identity.key = some decl)
    (hbuild : build registry identity decl found = (.ok type, after)) :
    (undiscovered registry (after.addType type).types).length <
      (undiscovered registry found.types).length := by
  have htypes : after.types = found.types := by
    rw [← findsNoTypes_build registry identity decl found, hbuild]
  obtain rfl := identity_of_build hbuild
  rw [Discovery.types_addType, htypes]
  exact length_undiscovered_lt hfind hfresh

/-- Each run of discovery is a finite tree of visits, no deeper than there are declarations that have not
been found. -/
theorem exists_visits (registry : Registry) (depth : Nat) (pending : List TypeIdentity)
    (found : Discovery) (hdepth : (undiscovered registry found.types).length ≤ depth) :
    ∃ built, Visits registry depth pending found built (discover registry pending found) := by
  -- the depth carries the inner visits, the list of pending types the rest
  induction depth using Nat.strong_induction_on generalizing pending found with
  | h depth ihDepth =>
    induction pending generalizing found with
    | nil => exact ⟨[], by rw [discover_nil]; exact .done⟩
    | cons identity rest ihRest =>
      by_cases hpassed : found.knows identity.key = true ∨ registry.find? identity.key = none
      · obtain ⟨built, hrest⟩ := ihRest found hdepth
        rw [discover_cons_of_passed rest hpassed]
        exact ⟨built, .passed hpassed hrest⟩
      · rw [not_or, Bool.not_eq_true, ← ne_eq, Option.ne_none_iff_exists'] at hpassed
        obtain ⟨hfresh, decl, hfind⟩ := hpassed
        rw [discover_cons_of_build rest hfresh hfind]
        obtain ⟨depth, rfl⟩ : ∃ less, depth = less + 1 :=
          Nat.exists_eq_add_one.2 (Nat.lt_of_lt_of_le (length_undiscovered_pos hfresh hfind) hdepth)
        rcases hbuild : build registry identity decl found with ⟨e | type, middle⟩
        · rw [Discover.andThen_of_error (by rw [hbuild]), hbuild]
          exact ⟨_, .unbuilt hfresh hfind hbuild⟩
        · have hless := length_undiscovered_build hfresh hfind hbuild
          rw [Discover.andThen_of_ok (by rw [hbuild]), hbuild, discover_append]
          obtain ⟨inner, hinner⟩ := ihDepth depth (Nat.lt_succ_self depth) type.references
            (middle.addType type) (by omega)
          rcases hrun : discover registry type.references (middle.addType type) with ⟨e | ⟨⟩, after⟩
          · rw [hrun] at hinner
            rw [Discover.andThen_of_error (by rw [hrun]), hrun]
            exact ⟨_, .stopped hfresh hfind hbuild hinner⟩
          · rw [hrun] at hinner
            obtain ⟨types, hgrown⟩ := hinner.exists_types
            have hshrunk := length_undiscovered_append_le registry (middle.addType type).types types
            rw [← hgrown] at hshrunk
            dsimp only at hshrunk
            obtain ⟨later, hrest⟩ := ihRest after (by omega)
            rw [Discover.andThen_of_ok (by rw [hrun]), hrun]
            exact ⟨_, .visited hfresh hfind hbuild hinner hrest⟩

/-- What visits describe and what they come to is determined, whatever bounds their depth. -/
theorem Visits.unique {pending : List TypeIdentity} {depth' : Nat} {built' : List String}
    {outcome' : Except Error Unit × Discovery}
    (hvisits : Visits registry depth pending found built outcome)
    (hvisits' : Visits registry depth' pending found built' outcome') :
    built' = built ∧ outcome' = outcome := by
  induction hvisits generalizing depth' built' outcome' with
  | done =>
    cases hvisits'
    exact ⟨rfl, rfl⟩
  | passed hpassed _ ih =>
    cases hvisits' with
    | passed _ hrest => exact ih hrest
    | unbuilt hfresh hfind => simp [hfresh, hfind] at hpassed
    | stopped hfresh hfind => simp [hfresh, hfind] at hpassed
    | visited hfresh hfind => simp [hfresh, hfind] at hpassed
  | unbuilt hfresh hfind hbuild =>
    cases hvisits' with
    | passed hpassed => simp [hfresh, hfind] at hpassed
    | unbuilt _ hfind' hbuild' =>
      cases hfind.symm.trans hfind'
      cases hbuild.symm.trans hbuild'
      exact ⟨rfl, rfl⟩
    | stopped _ hfind' hbuild' =>
      cases hfind.symm.trans hfind'
      cases hbuild.symm.trans hbuild'
    | visited _ hfind' hbuild' =>
      cases hfind.symm.trans hfind'
      cases hbuild.symm.trans hbuild'
  | stopped hfresh hfind hbuild _ ih =>
    cases hvisits' with
    | passed hpassed => simp [hfresh, hfind] at hpassed
    | unbuilt _ hfind' hbuild' =>
      cases hfind.symm.trans hfind'
      cases hbuild.symm.trans hbuild'
    | stopped _ hfind' hbuild' hinner' =>
      cases hfind.symm.trans hfind'
      cases hbuild.symm.trans hbuild'
      obtain ⟨rfl, heq⟩ := ih hinner'
      exact ⟨rfl, heq⟩
    | visited _ hfind' hbuild' hinner' =>
      cases hfind.symm.trans hfind'
      cases hbuild.symm.trans hbuild'
      cases (ih hinner').2
  | visited hfresh hfind hbuild _ _ ihInner ihRest =>
    cases hvisits' with
    | passed hpassed => simp [hfresh, hfind] at hpassed
    | unbuilt _ hfind' hbuild' =>
      cases hfind.symm.trans hfind'
      cases hbuild.symm.trans hbuild'
    | stopped _ hfind' hbuild' hinner' =>
      cases hfind.symm.trans hfind'
      cases hbuild.symm.trans hbuild'
      cases (ihInner hinner').2
    | visited _ hfind' hbuild' hinner' hrest' =>
      cases hfind.symm.trans hfind'
      cases hbuild.symm.trans hbuild'
      obtain ⟨rfl, hafter⟩ := ihInner hinner'
      cases hafter
      obtain ⟨rfl, heq⟩ := ihRest hrest'
      exact ⟨rfl, heq⟩

/-! ### No declaration is described twice -/

/-- The keys of the declarations that are described on the way to an outcome: distinct, not known before,
and known afterwards if nothing fails. -/
structure BuiltOnce (found : Discovery) (built : List String) (outcome : Except Error Unit × Discovery) :
    Prop where
  nodup : built.Nodup
  fresh : ∀ key ∈ built, found.knows key = false
  grown : ∃ types, outcome.2.types = found.types ++ types
  known : outcome.1 = .ok () → ∀ key ∈ built, outcome.2.knows key = true

namespace BuiltOnce

theorem nothing (hgrown : ∃ types, outcome.2.types = found.types ++ types) :
    BuiltOnce found [] outcome where
  nodup := List.nodup_nil
  fresh := nofun
  grown := hgrown
  known := nofun

theorem append {later : List String} {middle : Discovery}
    (hfirst : BuiltOnce found built (.ok (), middle)) (hlater : BuiltOnce middle later outcome) :
    BuiltOnce found (built ++ later) outcome where
  nodup := by
    refine List.Nodup.append hfirst.nodup hlater.nodup fun key hbuilt hagain => ?_
    have hknown := hfirst.known rfl key hbuilt
    rw [hlater.fresh key hagain] at hknown
    cases hknown
  fresh key hkey := by
    rcases List.mem_append.1 hkey with hbuilt | hlate
    · exact hfirst.fresh key hbuilt
    · obtain ⟨types, hgrown⟩ := hfirst.grown
      by_contra hknown
      have hstill := Discovery.knows_append hgrown (Bool.not_eq_false _ ▸ hknown)
      rw [hlater.fresh key hlate] at hstill
      cases hstill
  grown := by
    obtain ⟨types, hmiddle⟩ := hfirst.grown
    obtain ⟨more, hgrown⟩ := hlater.grown
    exact ⟨types ++ more, by rw [hgrown, hmiddle, List.append_assoc]⟩
  known hok key hkey := by
    rcases List.mem_append.1 hkey with hbuilt | hlate
    · obtain ⟨types, hgrown⟩ := hlater.grown
      exact Discovery.knows_append hgrown (hfirst.known rfl key hbuilt)
    · exact hlater.known hok key hlate

theorem register {middle : Discovery} (hfresh : found.knows identity.key = false)
    (hbuild : build registry identity decl found = (.ok type, middle)) :
    BuiltOnce found [identity.key] (.ok (), middle.addType type) where
  nodup := List.nodup_singleton _
  fresh := List.forall_mem_singleton.2 hfresh
  grown := by
    have htypes := findsNoTypes_build registry identity decl found
    rw [hbuild] at htypes
    exact ⟨[type], by rw [Discovery.types_addType, htypes]⟩
  known _ := by
    refine List.forall_mem_singleton.2 ?_
    rw [Discovery.knows, Discovery.types_addType, List.any_append, ← identity_of_build hbuild]
    simp

end BuiltOnce

theorem Visits.builtOnce {pending : List TypeIdentity}
    (hvisits : Visits registry depth pending found built outcome) : BuiltOnce found built outcome := by
  induction hvisits with
  | done => exact .nothing ⟨[], (List.append_nil _).symm⟩
  | passed _ _ ih => exact ih
  | @unbuilt _ identity _ found after _ e hfresh hfind hbuild =>
    have hvisit : Visits registry 1 [identity] found [identity.key] (.error e, after) :=
      .unbuilt hfresh hfind hbuild
    exact ⟨List.nodup_singleton _, List.forall_mem_singleton.2 hfresh, hvisit.exists_types, nofun⟩
  | stopped hfresh _ hbuild _ ih => exact (BuiltOnce.register hfresh hbuild).append ih
  | visited hfresh _ hbuild _ _ ihInner ihRest =>
    exact ((BuiltOnce.register hfresh hbuild).append ihInner).append ihRest

theorem Visits.declared {pending : List TypeIdentity}
    (hvisits : Visits registry depth pending found built outcome) :
    ∀ key ∈ built, (registry.find? key).isSome = true := by
  induction hvisits with
  | done => exact nofun
  | passed _ _ ih => exact ih
  | unbuilt _ hfind => exact List.forall_mem_singleton.2 (by rw [hfind]; rfl)
  | stopped _ hfind _ _ ih => exact List.forall_mem_cons.2 ⟨by rw [hfind]; rfl, ih⟩
  | visited _ hfind _ _ _ ihInner ihRest =>
    refine List.forall_mem_append.2 ⟨List.forall_mem_cons.2 ⟨by rw [hfind]; rfl, ihInner⟩, ihRest⟩

/-! ### The visits of a whole run -/

/-- Takes a method as far as its signature, unless its target is claimed: what is to be visited then. -/
def openNamed (registry : Registry) (assembly : Value) (kind : MethodKind) (decl : MethodDecl)
    (fullName scriptSpace name : String) : Discover (List TypeIdentity) := fun found =>
  if found.claimed.contains (scriptSpace, kind.isExport, Naming.lowerFirst name) then
    (.ok [], found.warn (assembly.display ++ ": " ++ fullName ++ " duplicates " ++ scriptSpace ++ "." ++
      Naming.lowerFirst name ++ ", ignoring"))
  else
    (Discover.lift (signatureOf registry decl)).andThen (fun signature found =>
      let method := methodOf assembly kind decl scriptSpace name signature
      (.ok (method.signature.flatMap TypeRef.identities), found.addMethod method))
      (found.claim (scriptSpace, kind.isExport, Naming.lowerFirst name))

def openMethod (registry : Registry) (assembly : Value) (kind : MethodKind) (decl : MethodDecl)
    (fullName : String) : Discover (List TypeIdentity) :=
  (resolveSpace decl.space).andThen fun scriptSpace =>
    (Discover.lift (textName decl.name)).andThen fun name =>
      openNamed registry assembly kind decl fullName scriptSpace name

/-- The step with the names of a module and a method put before its failures. -/
def Discover.within {α : Type} (assembly : Value) (fullName : String) (step : Discover α) : Discover α :=
  fun found => ((step found).1.mapError fun e => (e.within fullName).within assembly.display,
    (step found).2)

/-- Considers a method as far as its signature: its name, under which a failure is reported, and the types
that are to be visited then. -/
def openConsidered (registry : Registry) (ignores : List String) (assembly : Value) (kind : MethodKind)
    (decl : MethodDecl) : Discover (String × List TypeIdentity) := fun found =>
  match decl.fullName? with
  | none => (.error (.misused .nameNotText), found)
  | some fullName =>
    match isIgnored ignores fullName decl.name with
    | .error e => (.error e, found)
    | .ok true => (.ok (fullName, []), found.record .debug ("Ignoring " ++ fullName))
    | .ok false =>
      let opened := (openMethod registry assembly kind decl fullName).within assembly fullName found
      (opened.1.map (Prod.mk fullName), opened.2)

theorem takeNamed_eq_open (registry : Registry) (assembly : Value) (kind : MethodKind)
    (decl : MethodDecl) (fullName scriptSpace name : String) :
    takeNamed registry assembly kind decl fullName scriptSpace name =
      (openNamed registry assembly kind decl fullName scriptSpace name).andThen (discover registry) := by
  funext found
  unfold takeNamed openNamed
  by_cases hclaimed : found.claimed.contains (scriptSpace, kind.isExport, Naming.lowerFirst name) = true
  · rw [if_pos hclaimed]
    simp only [Discover.andThen, if_pos hclaimed, discover_nil]
  · rw [if_neg hclaimed]
    simp only [Discover.andThen, Discover.lift, if_neg hclaimed]
    cases signatureOf registry decl <;> rfl

theorem takeMethod_eq_open (registry : Registry) (assembly : Value) (kind : MethodKind)
    (decl : MethodDecl) (fullName : String) :
    takeMethod registry assembly kind decl fullName =
      (openMethod registry assembly kind decl fullName).andThen (discover registry) := by
  rw [takeMethod_eq, openMethod, Discover.andThen_assoc]
  refine congrArg _ (funext fun scriptSpace => ?_)
  rw [Discover.andThen_assoc]
  exact congrArg _ (funext fun name => takeNamed_eq_open ..)

/-- To consider a method is to do so as far as its signature, and then to visit the types that are
pending. -/
theorem considerMethod_eq_open (registry : Registry) (ignores : List String) (assembly : Value)
    (kind : MethodKind) (decl : MethodDecl) :
    considerMethod registry ignores assembly kind decl =
      (openConsidered registry ignores assembly kind decl).andThen fun opened =>
        (discover registry opened.2).within assembly opened.1 := by
  funext found
  unfold Discover.andThen openConsidered
  cases hname : decl.fullName? with
  | none => simp only [considerMethod, hname]
  | some fullName =>
    dsimp only
    rcases hkept : isIgnored ignores fullName decl.name with e | (_ | _)
    · simp only [considerMethod, hname, hkept]
    · rw [considerMethod_of_kept registry ignores assembly kind decl fullName hname hkept,
        takeMethod_eq_open]
      unfold Discover.andThen Discover.within
      rcases openMethod registry assembly kind decl fullName found with ⟨e | pending, after⟩ <;> rfl
    · simp only [considerMethod, hname, hkept, Discover.within, discover_nil]
      rfl

theorem findsNoTypes_openNamed (registry : Registry) (assembly : Value) (kind : MethodKind)
    (decl : MethodDecl) (fullName scriptSpace name : String) :
    (openNamed registry assembly kind decl fullName scriptSpace name).FindsNoTypes := by
  intro found
  unfold openNamed
  split
  · rfl
  · refine ((Discover.findsNoTypes_lift (signatureOf registry decl)).andThen ?_) (found.claim _)
    intro signature taken
    exact Discovery.types_addMethod ..

theorem findsNoTypes_openConsidered (registry : Registry) (ignores : List String) (assembly : Value)
    (kind : MethodKind) (decl : MethodDecl) :
    (openConsidered registry ignores assembly kind decl).FindsNoTypes := by
  intro found
  unfold openConsidered
  split
  · rfl
  · rename_i fullName hname
    split
    · rfl
    · rfl
    · refine ((Discover.findsNoTypes_resolveSpace decl.space).andThen fun scriptSpace => ?_) found
      refine (Discover.findsNoTypes_lift (textName decl.name)).andThen fun name => ?_
      exact findsNoTypes_openNamed registry assembly kind decl fullName scriptSpace name

/-- A run over the methods of some modules, with the keys of the declarations that are described in its
visits and with what it comes to. -/
inductive Crawls (registry : Registry) (ignores : List String) :
    List (Value × MethodKind × MethodDecl) → Discovery → List String →
      Except Error Unit × Discovery → Prop
  | done {found : Discovery} : Crawls registry ignores [] found [] (.ok (), found)
  | refused {assembly : Value} {kind : MethodKind} {decl : MethodDecl}
      {rest : List (Value × MethodKind × MethodDecl)} {found after : Discovery} {e : Error} :
    openConsidered registry ignores assembly kind decl found = (.error e, after) →
    Crawls registry ignores ((assembly, kind, decl) :: rest) found [] (.error e, after)
  | stopped {assembly : Value} {kind : MethodKind} {decl : MethodDecl}
      {rest : List (Value × MethodKind × MethodDecl)} {found start after : Discovery}
      {fullName : String} {pending : List TypeIdentity} {built : List String} {e : Error} :
    openConsidered registry ignores assembly kind decl found = (.ok (fullName, pending), start) →
    Visits registry registry.decls.length pending start built (.error e, after) →
    Crawls registry ignores ((assembly, kind, decl) :: rest) found built
      (.error ((e.within fullName).within assembly.display), after)
  | next {assembly : Value} {kind : MethodKind} {decl : MethodDecl}
      {rest : List (Value × MethodKind × MethodDecl)} {found start after : Discovery}
      {fullName : String} {pending : List TypeIdentity} {built later : List String}
      {outcome : Except Error Unit × Discovery} :
    openConsidered registry ignores assembly kind decl found = (.ok (fullName, pending), start) →
    Visits registry registry.decls.length pending start built (.ok (), after) →
    Crawls registry ignores rest after later outcome →
    Crawls registry ignores ((assembly, kind, decl) :: rest) found (built ++ later) outcome

variable {ignores : List String} {entries : List (Value × MethodKind × MethodDecl)}

theorem exists_crawls (registry : Registry) (ignores : List String)
    (entries : List (Value × MethodKind × MethodDecl)) (found : Discovery) :
    ∃ built, Crawls registry ignores entries found built
      (considerMethods registry ignores entries found) := by
  induction entries generalizing found with
  | nil => exact ⟨[], .done⟩
  | cons entry rest ih =>
    obtain ⟨assembly, kind, decl⟩ := entry
    rw [considerMethods_cons, considerMethod_eq_open, Discover.andThen_assoc]
    rcases hopen : openConsidered registry ignores assembly kind decl found with
      ⟨e | ⟨fullName, pending⟩, start⟩
    · rw [Discover.andThen_of_error (by rw [hopen]), hopen]
      exact ⟨[], .refused hopen⟩
    · rw [Discover.andThen_of_ok (by rw [hopen]), hopen]
      obtain ⟨built, hvisits⟩ := exists_visits registry registry.decls.length pending start
        (List.length_filter_le ..)
      rcases hrun : discover registry pending start with ⟨e | ⟨⟩, after⟩
      · rw [hrun] at hvisits
        have hstep : ((discover registry pending).within assembly fullName start) =
            (.error ((e.within fullName).within assembly.display), after) := by
          simp only [Discover.within, hrun, Except.mapError]
        rw [Discover.andThen_of_error (by rw [hstep]), hstep]
        exact ⟨built, .stopped hopen hvisits⟩
      · rw [hrun] at hvisits
        have hstep : ((discover registry pending).within assembly fullName start) = (.ok (), after) := by
          simp only [Discover.within, hrun, Except.mapError]
        obtain ⟨later, hrest⟩ := ih after
        rw [Discover.andThen_of_ok (by rw [hstep]), hstep]
        exact ⟨built ++ later, .next hopen hvisits hrest⟩

theorem Crawls.unique {built' : List String} {outcome' : Except Error Unit × Discovery}
    (hcrawls : Crawls registry ignores entries found built outcome)
    (hcrawls' : Crawls registry ignores entries found built' outcome') :
    built' = built ∧ outcome' = outcome := by
  induction hcrawls generalizing built' outcome' with
  | done =>
    cases hcrawls'
    exact ⟨rfl, rfl⟩
  | refused hopen =>
    cases hcrawls' with
    | refused hopen' =>
      cases hopen.symm.trans hopen'
      exact ⟨rfl, rfl⟩
    | stopped hopen' => cases hopen.symm.trans hopen'
    | next hopen' => cases hopen.symm.trans hopen'
  | stopped hopen hvisits =>
    cases hcrawls' with
    | refused hopen' => cases hopen.symm.trans hopen'
    | stopped hopen' hvisits' =>
      cases hopen.symm.trans hopen'
      obtain ⟨rfl, heq⟩ := hvisits.unique hvisits'
      cases heq
      exact ⟨rfl, rfl⟩
    | next hopen' hvisits' =>
      cases hopen.symm.trans hopen'
      cases (hvisits.unique hvisits').2
  | next hopen hvisits _ ih =>
    cases hcrawls' with
    | refused hopen' => cases hopen.symm.trans hopen'
    | stopped hopen' hvisits' =>
      cases hopen.symm.trans hopen'
      cases (hvisits.unique hvisits').2
    | next hopen' hvisits' hrest' =>
      cases hopen.symm.trans hopen'
      obtain ⟨rfl, hafter⟩ := hvisits.unique hvisits'
      cases hafter
      obtain ⟨rfl, heq⟩ := ih hrest'
      exact ⟨rfl, heq⟩

theorem BuiltOnce.opened {assembly : Value} {kind : MethodKind} {decl : MethodDecl}
    {result : Except Error (String × List TypeIdentity)} {start : Discovery}
    (hopen : openConsidered registry ignores assembly kind decl found = (result, start))
    (honce : BuiltOnce start built outcome) : BuiltOnce found built outcome := by
  have htypes := findsNoTypes_openConsidered registry ignores assembly kind decl found
  rw [hopen] at htypes
  have hknows : ∀ key, start.knows key = found.knows key := fun key => by
    rw [Discovery.knows, Discovery.knows, htypes]
  exact ⟨honce.nodup, fun key hkey => hknows key ▸ honce.fresh key hkey, htypes ▸ honce.grown,
    honce.known⟩

theorem Crawls.builtOnce (hcrawls : Crawls registry ignores entries found built outcome) :
    BuiltOnce found built outcome := by
  induction hcrawls with
  | done => exact .nothing ⟨[], (List.append_nil _).symm⟩
  | refused hopen => exact .opened hopen (.nothing ⟨[], (List.append_nil _).symm⟩)
  | stopped hopen hvisits =>
    obtain ⟨hnodup, hfresh, hgrown, -⟩ := hvisits.builtOnce
    exact .opened hopen ⟨hnodup, hfresh, hgrown, nofun⟩
  | next hopen hvisits _ ih => exact .opened hopen (hvisits.builtOnce.append ih)

theorem Crawls.declared (hcrawls : Crawls registry ignores entries found built outcome) :
    ∀ key ∈ built, (registry.find? key).isSome = true := by
  induction hcrawls with
  | done => exact nofun
  | refused => exact nofun
  | stopped _ hvisits => exact hvisits.declared
  | next _ hvisits _ ih => exact List.forall_mem_append.2 ⟨hvisits.declared, ih⟩

/-- To visit what a reference mentions is a finite tree of visits, one alone, and no deeper than there are
declarations that have not been found. In a run over the methods of some modules, to its end or to a
failure, no declaration is described twice. -/
theorem visits_end_and_build_once :
    (∀ (registry : Registry) (ref : TypeRef) (found : Discovery),
      ∃! built, Visits registry (undiscovered registry found.types).length ref.identities found built
        (discover registry ref.identities found)) ∧
    ∀ (inspector : Inspector) (modules : List Descriptor),
      ∃! built, Crawls (Registry.ofModules modules) inspector.ignores (interopMethods modules)
          (inspector.declared modules) built
          (considerMethods (Registry.ofModules modules) inspector.ignores (interopMethods modules)
            (inspector.declared modules)) ∧
        built.Nodup ∧ ∀ key ∈ built, ((Registry.ofModules modules).find? key).isSome = true := by
  constructor
  · intro registry ref found
    obtain ⟨built, hvisits⟩ := exists_visits registry _ ref.identities found le_rfl
    exact ⟨built, hvisits, fun other hother => (hvisits.unique hother).1⟩
  · intro inspector modules
    obtain ⟨built, hcrawls⟩ := exists_crawls (Registry.ofModules modules) inspector.ignores
      (interopMethods modules) (inspector.declared modules)
    refine ⟨built, ⟨hcrawls, hcrawls.builtOnce.nodup, hcrawls.declared⟩, ?_⟩
    intro other hother
    exact (hcrawls.unique hother.1).1

/-- A type whose instances hold and extend instances of ever larger types. -/
def nestDecl : TypeDecl where
  kind := .object
  space := .text "nests"
  name := .text "Nest"
  parameters := [.text "T"]
  members := [{ name := .text "Inner", type := .text "Nest<Nest<T>>", isStatic := false, isComputed := false }]
  items := []
  bases := [.text "Nest<T[]>"]
  isValueType := false

def nestType : DeclaredType where
  identity := nestDecl.identity
  scriptSpace := "nests"
  isValueType := false
  shape :=
    .object [.text "T"]
      [{ name := .text "Inner", scriptName := .text "inner",
         type := .generic nestDecl.identity [.generic nestDecl.identity [.parameter "T"]] }]
      [.generic nestDecl.identity [.array (.parameter "T") ""]]

example : ∃ outcome, Visits { decls := [nestDecl] } 1 [nestDecl.identity, nestDecl.identity]
    { resolver := { rules := [] } } [nestDecl.identity.key] outcome := by
  let asked : Discovery := { resolver := { rules := [], resolved := [("nests", "nests")] } }
  have hfind : Registry.find? { decls := [nestDecl] } nestDecl.identity.key = some nestDecl := by cbv
  have hbuild : build { decls := [nestDecl] } nestDecl.identity nestDecl { resolver := { rules := [] } } =
      (.ok nestType, asked) := by cbv
  have hknows : (asked.addType nestType).knows nestDecl.identity.key = true := by
    simp [Discovery.knows, nestType]
  have hinner : Visits { decls := [nestDecl] } 0
      [nestDecl.identity, nestDecl.identity, nestDecl.identity] (asked.addType nestType) []
      (.ok (), asked.addType nestType) :=
    .passed (.inl hknows) (.passed (.inl hknows) (.passed (.inl hknows) .done))
  exact ⟨_, .visited rfl hfind hbuild hinner (.passed (.inl hknows) .done)⟩

end ScriptBridge
