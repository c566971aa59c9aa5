import ScriptBridge.Proofs.Surface.Exploration

/-!
# Steps of discovery in sequence

The steps of discovery as sequences of smaller ones. Each of them may fail, and what was found before
stays.
-/

namespace ScriptBridge

namespace Discover

variable {α β : Type}

/-- A step that finds nothing. -/
def lift (result : Except Error α) : Discover α := fun found => (result, found)

/-- A step, and another on its result unless it fails. -/
def andThen (step : Discover α) (next : α → Discover β) : Discover β := fun found =>
  match step found with
  | (.error e, after) => (.error e, after)
  | (.ok a, after) => next a after

variable {step : Discover α} {next : α → Discover β} {found : Discovery} {a : α} {e : Error}

theorem andThen_of_ok (hstep : (step found).1 = .ok a) :
    step.andThen next found = next a (step found).2 := by
  rw [andThen, ← Prod.eta (step found), hstep]

theorem andThen_of_error (hstep : (step found).1 = .error e) :
    step.andThen next found = (.error e, (step found).2) := by
  rw [andThen, ← Prod.eta (step found), hstep]

end Discover

/-! ### Types -/

section Types

variable {registry : Registry} {identity : TypeIdentity} {found : Discovery}
  (rest : List TypeIdentity)

/-- A pending type that is known, or not declared, is passed over. -/
theorem discover_cons_of_passed
    (hpassed : found.knows identity.key = true ∨ registry.find? identity.key = none) :
    discover registry (identity :: rest) found = discover registry rest found := by
  rw [discover_cons]
  by_cases hknown : found.knows identity.key = true
  · rw [if_pos hknown]
  · rw [if_neg hknown, hpassed.resolve_left hknown]

/-- Any other is described in its namespace, and what it refers to comes before what is pending. -/
theorem discover_cons_of_fresh {decl : TypeDecl} (hfresh : found.knows identity.key = false)
    (hfind : registry.find? identity.key = some decl) :
    discover registry (identity :: rest) found =
      ((resolveSpace decl.space).andThen fun scriptSpace =>
        (Discover.lift (describe registry identity decl scriptSpace)).andThen fun type after =>
          discover registry (type.references ++ rest) (after.addType type)) found := by
  rw [discover_cons, if_neg (by simp [hfresh]), hfind]
  cases hresult : (resolveSpace decl.space found).1 with
  | error e =>
    have hspace : resolveSpace decl.space found = (.error e, (resolveSpace decl.space found).2) :=
      Prod.ext hresult rfl
    rw [Discover.andThen_of_error hresult]
    dsimp only
    rw [hspace]
  | ok scriptSpace =>
    have hspace : resolveSpace decl.space found =
        (.ok scriptSpace, (resolveSpace decl.space found).2) := Prod.ext hresult rfl
    obtain ⟨space, -, -, hafter⟩ := resolveSpace_eq_ok_iff.1 hspace
    rw [Discover.andThen_of_ok hresult]
    dsimp only
    rw [hspace, hafter]
    dsimp only [Discover.andThen, Discover.lift]
    cases describe registry identity decl scriptSpace <;> rfl

end Types

/-! ### Methods -/

section Methods

variable (registry : Registry) (ignores : List String) (assembly : Value) (kind : MethodKind)
  (decl : MethodDecl) (fullName : String)

/-- The arguments and the result of a method. -/
def signatureOf : Except Error (List Argument × TypeRef) := do
  let arguments ← argumentsOf registry decl.space.display decl.parameters
  let returns ← registry.resolveValue decl.returns decl.space.display []
  return (arguments, returns)

/-- The method that a declaration of a name gives in a namespace, with its arguments and its result. -/
def methodOf (scriptSpace name : String) (signature : List Argument × TypeRef) : Method where
  kind
  assembly
  owner := decl.owner
  space := decl.space.display
  scriptSpace
  name
  scriptName := Naming.lowerFirst name
  arguments := signature.1
  returns := signature.2

/-- Takes a method into its namespace under its own name, unless another has claimed its target. -/
def takeNamed (scriptSpace name : String) : Discover Unit := fun found =>
  if found.claimed.contains (scriptSpace, kind.isExport, Naming.lowerFirst name) then
    (.ok (), found.warn (assembly.display ++ ": " ++ fullName ++ " duplicates " ++ scriptSpace ++ "." ++
      Naming.lowerFirst name ++ ", ignoring"))
  else
    (Discover.lift (signatureOf registry decl)).andThen (fun signature found =>
      let method := methodOf assembly kind decl scriptSpace name signature
      discover registry (method.signature.flatMap TypeRef.identities) (found.addMethod method))
      (found.claim (scriptSpace, kind.isExport, Naming.lowerFirst name))

theorem takeNamed_of_claimed {scriptSpace name : String} {found : Discovery}
    (hclaimed : found.claimed.contains (scriptSpace, kind.isExport, Naming.lowerFirst name) = true) :
    takeNamed registry assembly kind decl fullName scriptSpace name found =
      Discover.lift (.ok ()) (found.warn (assembly.display ++ ": " ++ fullName ++ " duplicates " ++
        scriptSpace ++ "." ++ Naming.lowerFirst name ++ ", ignoring")) := by
  rw [takeNamed, if_pos hclaimed]
  rfl

theorem takeNamed_of_free {scriptSpace name : String} {found : Discovery}
    (hfree : found.claimed.contains (scriptSpace, kind.isExport, Naming.lowerFirst name) = false) :
    takeNamed registry assembly kind decl fullName scriptSpace name found =
      (Discover.lift (signatureOf registry decl)).andThen (fun signature found =>
        discover registry
          ((methodOf assembly kind decl scriptSpace name signature).signature.flatMap
            TypeRef.identities)
          (found.addMethod (methodOf assembly kind decl scriptSpace name signature)))
        (found.claim (scriptSpace, kind.isExport, Naming.lowerFirst name)) := by
  rw [takeNamed, if_neg (Bool.eq_false_iff.1 hfree)]

theorem takeMethod_eq :
    takeMethod registry assembly kind decl fullName =
      (resolveSpace decl.space).andThen fun scriptSpace =>
        (Discover.lift (textName decl.name)).andThen fun name =>
          takeNamed registry assembly kind decl fullName scriptSpace name := by
  funext found
  unfold takeMethod Discover.andThen Discover.lift
  cases resolveSpace decl.space found with
  | mk result after =>
    cases result with
    | error e => rfl
    | ok scriptSpace =>
      cases textName decl.name with
      | error e => rfl
      | ok name =>
        dsimp only [takeNamed]
        split
        · rfl
        · dsimp only [Discover.andThen, Discover.lift]
          cases hsignature : signatureOf registry decl <;> (
            unfold signatureOf at hsignature
            simp only [hsignature]
            rfl)

/-- A method whose target is free is taken, and then the types that its signature mentions. -/
theorem takeMethod_of_free {scriptSpace name : String} {signature : List Argument × TypeRef}
    {found after : Discovery} (hspace : resolveSpace decl.space found = (.ok scriptSpace, after))
    (hname : decl.name = .text name)
    (hfree : after.claimed.contains (scriptSpace, kind.isExport, Naming.lowerFirst name) = false)
    (hsignature : signatureOf registry decl = .ok signature) :
    takeMethod registry assembly kind decl fullName found =
      discover registry
        ((methodOf assembly kind decl scriptSpace name signature).signature.flatMap
          TypeRef.identities)
        ((after.claim (scriptSpace, kind.isExport, Naming.lowerFirst name)).addMethod
          (methodOf assembly kind decl scriptSpace name signature)) := by
  have htext : textName decl.name = .ok name := by rw [hname]; rfl
  rw [takeMethod_eq, Discover.andThen_of_ok (congrArg Prod.fst hspace), hspace,
    Discover.andThen_of_ok htext, Discover.lift,
    takeNamed_of_free registry assembly kind decl fullName hfree,
    Discover.andThen_of_ok hsignature, Discover.lift]

theorem considerMethod_of_kept {found : Discovery} (hname : decl.fullName? = some fullName)
    (hkept : isIgnored ignores fullName decl.name = .ok false) :
    considerMethod registry ignores assembly kind decl found =
      (((takeMethod registry assembly kind decl fullName found).1.mapError fun e =>
          (e.within fullName).within assembly.display),
        (takeMethod registry assembly kind decl fullName found).2) := by
  simp only [considerMethod, hname, hkept]

theorem considerMethods_cons (rest : List (Value × MethodKind × MethodDecl)) :
    considerMethods registry ignores ((assembly, kind, decl) :: rest) =
      (considerMethod registry ignores assembly kind decl).andThen fun _ =>
        considerMethods registry ignores rest := by
  funext found
  rw [considerMethods, Discover.andThen]
  rcases considerMethod registry ignores assembly kind decl found with ⟨e | ⟨⟩, after⟩ <;> rfl

end Methods

end ScriptBridge
