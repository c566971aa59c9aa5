import ScriptBridge.Log
import ScriptBridge.Namespace.Resolver
import ScriptBridge.Naming
import ScriptBridge.Surface
import ScriptBridge.TypeRef.Registry

/-!
Finding the surface of some modules. Methods are taken in the order of the modules and of their
declarations; after each, the declared types that its signature reaches are taken, depth first.
-/

namespace ScriptBridge

/-- The name of the part that reports on discovery, in the log. -/
def discoveryLogger : String := "interop_gen.crawler"

/-- What has been found so far. -/
structure Discovery where
  resolver : Namespace.Resolver
  methods : List Method := []
  types : List DeclaredType := []
  namespaces : List String := []
  /-- The target names of the methods so far, with their namespaces and sides. -/
  claimed : List (String × Bool × String) := []
  warnings : List String := []
  log : List LogRecord := []
deriving Repr

/-- A step of discovery. What was found and logged before a failure is kept. -/
abbrev Discover (α : Type) := Discovery → Except Error α × Discovery

namespace Discovery

def surface (found : Discovery) : Surface :=
  { methods := found.methods, types := found.types, namespaces := found.namespaces,
    warnings := found.warnings }

def record (found : Discovery) (level : LogLevel) (message : String) : Discovery :=
  { found with log := found.log ++ [{ level, logger := discoveryLogger, message }] }

def warn (found : Discovery) (message : String) : Discovery :=
  { found.record .warning message with warnings := found.warnings ++ [message] }

def see (found : Discovery) (scriptSpace : String) : Discovery :=
  if found.namespaces.contains scriptSpace then found
  else { found with namespaces := found.namespaces ++ [scriptSpace] }

/-- Whether a declared type has been found, told by its key. -/
def knows (found : Discovery) (key : String) : Bool :=
  found.types.any (·.identity.key == key)

def addType (found : Discovery) (type : DeclaredType) : Discovery :=
  ({ found with types := found.types ++ [type] }.see type.scriptSpace).record .debug
    ("Discovered " ++ type.identity.key ++ " => " ++ type.scriptSpace ++ "." ++
      type.identity.name.display)

def addMethod (found : Discovery) (method : Method) : Discovery :=
  { found with methods := found.methods ++ [method] }.see method.scriptSpace

theorem types_record (found : Discovery) (level : LogLevel) (message : String) :
    (found.record level message).types = found.types := rfl

theorem types_see (found : Discovery) (scriptSpace : String) :
    (found.see scriptSpace).types = found.types := by
  unfold see
  split <;> rfl

@[simp]
theorem types_addType (found : Discovery) (type : DeclaredType) :
    (found.addType type).types = found.types ++ [type] := by
  simp [addType, types_record, types_see]

end Discovery

/-- The script-side namespace of a value that should be a namespace. -/
def resolveSpace (given : Value) : Discover String := fun found =>
  match given with
  | .text space =>
    let (result, resolver) := found.resolver.resolve space
    (result, { found with resolver })
  | _ =>
    let misuse : Misuse :=
      if !given.isHashable then .notHashable
      else if found.resolver.rules.isEmpty then .spaceNotText
      else .subjectNotText
    (.error (.misused misuse), found)

def textName (given : Value) : Except Error String :=
  match given with
  | .text name => .ok name
  | _ => .error (.misused .nameNotText)

/-! ### Types -/

/-- The members that every instance holds, with what their types refer to. -/
def membersOf (registry : Registry) (decl : TypeDecl) : Except Error (List Member) :=
  (decl.members.filter (·.isReadable)).mapM fun member => do
    let type ← registry.resolveValue member.type decl.space.display decl.parameterNames
    let scriptName ← (Naming.memberName member.name).mapError .misused
    return { name := member.name, scriptName, type }

/-- The bases that are declared types. -/
def basesOf (registry : Registry) (decl : TypeDecl) : Except Error (List TypeRef) := do
  let refs ← decl.bases.mapM fun base =>
    registry.resolveValue base decl.space.display decl.parameterNames
  return refs.filter (·.identity?.isSome)

/-- The values of an enumeration: an item without a value is one more than its predecessor, and the
first is zero. -/
def valuesFrom (next : Int) : List ItemDecl → List EnumValue
  | [] => []
  | item :: rest =>
    let value := item.value.getD next
    { name := item.name, value } :: valuesFrom (value + 1) rest

def shapeOf (registry : Registry) (decl : TypeDecl) : Except Error TypeShape :=
  match decl.kind with
  | .enumeration => .ok (.enumeration (valuesFrom 0 decl.items))
  | .object => do
    let members ← membersOf registry decl
    let bases ← basesOf registry decl
    return .object decl.parameters members bases

/-- A declared type with all its references resolved. Enumerations are value types whatever their
declaration says. -/
def describe (registry : Registry) (identity : TypeIdentity) (decl : TypeDecl)
    (scriptSpace : String) : Except Error DeclaredType := do
  let shape ← shapeOf registry decl
  return { identity, scriptSpace, isValueType := decl.kind == .enumeration || decl.isValueType,
           shape }

theorem identity_of_describe {registry : Registry} {identity : TypeIdentity} {decl : TypeDecl}
    {scriptSpace : String} {type : DeclaredType}
    (described : describe registry identity decl scriptSpace = .ok type) :
    type.identity = identity := by
  unfold describe at described
  cases hshape : shapeOf registry decl with
  | error e => simp [hshape, bind, Except.bind] at described
  | ok shape =>
    simp only [hshape, bind, Except.bind, pure, Except.pure, Except.ok.injEq] at described
    exact described ▸ rfl

def undiscovered (registry : Registry) (types : List DeclaredType) : List TypeDecl :=
  registry.decls.filter fun decl => !types.any fun type => .text type.identity.key == decl.key

theorem length_undiscovered_lt {registry : Registry} {types : List DeclaredType}
    {type : DeclaredType} {decl : TypeDecl}
    (declared : registry.find? type.identity.key = some decl)
    (fresh : types.any (·.identity.key == type.identity.key) = false) :
    (undiscovered registry (types ++ [type])).length < (undiscovered registry types).length := by
  have hkey : decl.key = .text type.identity.key := by
    simpa using List.find?_some declared
  have hmem : decl ∈ registry.decls := List.mem_of_find?_eq_some declared
  have hfilter : undiscovered registry (types ++ [type]) =
      (undiscovered registry types).filter fun other => !(.text type.identity.key == other.key) := by
    unfold undiscovered
    rw [List.filter_filter]
    congr 1
    funext other
    simp [List.any_append, Bool.and_comm]
  rw [hfilter]
  refine List.length_filter_lt_length_iff_exists.2 ⟨decl, ?_, ?_⟩
  · unfold undiscovered
    rw [List.mem_filter]
    refine ⟨hmem, ?_⟩
    simpa [hkey] using fresh
  · simp [hkey]

/-- Finds the declared types that are pending, and those they refer to in turn, each before the next
one pending. Types that are known or not declared are passed over. -/
def discover (registry : Registry) (pending : List TypeIdentity) : Discover Unit := fun found =>
  match pending with
  | [] => (.ok (), found)
  | identity :: rest =>
    if _known : found.knows identity.key then discover registry rest found
    else
      match _declared : registry.find? identity.key with
      | none => discover registry rest found
      | some decl =>
        match resolveSpace decl.space found with
        | (.error e, after) => (.error e, after)
        | (.ok scriptSpace, after) =>
          match _described : describe registry identity decl scriptSpace with
          | .error e => (.error e, after)
          | .ok type =>
            discover registry (type.references ++ rest)
              ({ found with resolver := after.resolver }.addType type)
termination_by found => ((undiscovered registry found.types).length, pending.length)
decreasing_by
  · exact Prod.Lex.right _ (by simp)
  · exact Prod.Lex.right _ (by simp)
  · refine Prod.Lex.left _ _ ?_
    have hidentity := identity_of_describe _described
    rw [Discovery.types_addType]
    refine length_undiscovered_lt (hidentity.symm ▸ _declared) ?_
    rw [hidentity]
    simpa [Discovery.knows] using _known

/-! ### Methods -/

/-- The arguments of a method with what their types refer to. -/
def argumentsOf (registry : Registry) (space : String) (decls : List ParameterDecl) :
    Except Error (List Argument) :=
  decls.mapM fun decl => do
    let type ← registry.resolveValue decl.type space []
    match decl.name with
    | .text name => return { name := .text name, scriptName := .text (Naming.parameterName name), type }
    | other =>
      if other.isHashable then return { name := other, scriptName := other, type }
      else .error (.misused .notHashable)

/-- Takes an interop method, unless another has claimed its target name, and the types its signature
reaches. -/
def takeMethod (registry : Registry) (assembly : Value) (kind : MethodKind) (decl : MethodDecl)
    (fullName : String) : Discover Unit := fun found =>
  match resolveSpace decl.space found with
  | (.error e, found) => (.error e, found)
  | (.ok scriptSpace, found) =>
    match textName decl.name with
    | .error e => (.error e, found)
    | .ok name =>
      let scriptName := Naming.lowerFirst name
      let claim := (scriptSpace, kind.isExport, scriptName)
      if found.claimed.contains claim then
        (.ok (), found.warn (assembly.display ++ ": " ++ fullName ++ " duplicates " ++ scriptSpace ++
          "." ++ scriptName ++ ", ignoring"))
      else
        let found := { found with claimed := claim :: found.claimed }
        let space := decl.space.display
        let signature : Except Error (List Argument × TypeRef) := do
          let arguments ← argumentsOf registry space decl.parameters
          let returns ← registry.resolveValue decl.returns space []
          return (arguments, returns)
        match signature with
        | .error e => (.error e, found)
        | .ok (arguments, returns) =>
          let method : Method :=
            { kind, assembly, owner := decl.owner, space, scriptSpace, name, scriptName, arguments,
              returns }
          discover registry (method.signature.flatMap TypeRef.identities) (found.addMethod method)

/-- Whether a method is to be left out, by its full name or its own name. -/
def isIgnored (ignores : List String) (fullName : String) (name : Value) : Except Error Bool :=
  if ignores.contains fullName then .ok true
  else
    match name with
    | .text name => .ok (ignores.contains name)
    | other => if other.isHashable then .ok false else .error (.misused .notHashable)

/-- Takes an interop method unless it is to be left out. A defect is reported with the names of the
module and the method. -/
def considerMethod (registry : Registry) (ignores : List String) (assembly : Value)
    (kind : MethodKind) (decl : MethodDecl) : Discover Unit := fun found =>
  match decl.fullName? with
  | none => (.error (.misused .nameNotText), found)
  | some fullName =>
    match isIgnored ignores fullName decl.name with
    | .error e => (.error e, found)
    | .ok true => (.ok (), found.record .debug ("Ignoring " ++ fullName))
    | .ok false =>
      let (result, found) := takeMethod registry assembly kind decl fullName found
      (result.mapError fun e => (e.within fullName).within assembly.display, found)

def considerMethods (registry : Registry) (ignores : List String) :
    List (Value × MethodKind × MethodDecl) → Discover Unit
  | [], found => (.ok (), found)
  | (assembly, kind, decl) :: rest, found =>
    match considerMethod registry ignores assembly kind decl found with
    | (.error e, found) => (.error e, found)
    | (.ok (), found) => considerMethods registry ignores rest found

/-! ### Modules -/

/-- Adds the types of a module to those declared before. One whose key is taken is left out. -/
def declareTypes (assembly : Value) : List TypeDecl → Registry × Discovery → Registry × Discovery
  | [], state => state
  | decl :: rest, (registry, found) =>
    declareTypes assembly rest
      (if registry.declares decl.key then
        (registry, found.warn (assembly.display ++ ": type " ++ decl.key.display ++
          " is already declared, ignoring"))
      else (registry.add decl, found))

def declareModules (modules : List Descriptor) (start : Registry × Discovery) :
    Registry × Discovery :=
  modules.foldl (fun state module => declareTypes module.assembly module.types state) start

/-- The interop methods of some modules, each with its assembly and its kind. -/
def interopMethods (modules : List Descriptor) : List (Value × MethodKind × MethodDecl) :=
  modules.flatMap fun module => module.interopMethods.map fun entry => (module.assembly, entry)

/-- Finds surfaces under some namespace rules, leaving out the methods of some names. What a run has
declared and found stays here until the next run begins, whether the run has come to its end or not. -/
structure Inspector where
  resolver : Namespace.Resolver
  ignores : List String := []
  registry : Registry := {}
  methods : List Method := []
  types : List DeclaredType := []
  namespaces : List String := []
  claimed : List (String × Bool × String) := []
  warnings : List String := []
deriving Repr

structure Inspected where
  result : Except Error Surface
  log : List LogRecord
  /-- The inspector afterwards, with the namespaces it has resolved. -/
  inspector : Inspector

namespace Inspector

/-- The inspector with nothing declared and nothing found. -/
def reset (inspector : Inspector) : Inspector :=
  { inspector with
    registry := {}, methods := [], types := [], namespaces := [], claimed := [], warnings := [] }

/-- What is declared and what is found, for a run to go on from. -/
def state (inspector : Inspector) : Registry × Discovery :=
  (inspector.registry,
    { resolver := inspector.resolver, methods := inspector.methods, types := inspector.types,
      namespaces := inspector.namespaces, claimed := inspector.claimed,
      warnings := inspector.warnings })

@[simp]
theorem state_reset (inspector : Inspector) :
    inspector.reset.state = ({}, { resolver := inspector.resolver }) := rfl

/-- The inspector with what a run has declared and found. -/
def keep (inspector : Inspector) (registry : Registry) (found : Discovery) : Inspector :=
  { inspector with
    registry, resolver := found.resolver, methods := found.methods, types := found.types,
    namespaces := found.namespaces, claimed := found.claimed, warnings := found.warnings }

def inspect (inspector : Inspector) (modules : List Descriptor) : Inspected :=
  let (registry, declared) := declareModules modules inspector.reset.state
  let (result, found) :=
    considerMethods registry inspector.ignores (interopMethods modules) declared
  { result := result.map fun _ => found.surface, log := found.log,
    inspector := inspector.keep registry found }

/-- The outcomes of inspecting several lists of modules in turn. -/
def inspectAll (inspector : Inspector) : List (List Descriptor) → List (Except Error Surface)
  | [] => []
  | modules :: rest =>
    let inspected := inspector.inspect modules
    inspected.result :: inspected.inspector.inspectAll rest

end Inspector

end ScriptBridge
