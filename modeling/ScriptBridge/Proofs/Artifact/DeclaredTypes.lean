import Mathlib
import ScriptBridge.Proofs.Artifact.BindingObjects
import ScriptBridge.Proofs.Artifact.Declarations
import ScriptBridge.Proofs.Artifact.Totality
import ScriptBridge.Proofs.Surface.Reach

/-!
# Declared types and their names

Types are told apart by their identities, and each is declared for itself. A name alone does not
tell them apart: types of one name may differ in their number of type parameters, or come from
namespaces that rules make one.
-/

namespace ScriptBridge

/-! ### Types of one name -/

theorem TypeIdentity.key_eq {identity other : TypeIdentity} (hspace : identity.space = other.space)
    (hname : identity.name.display = other.name.display) (harity : identity.arity = other.arity) :
    identity.key = other.key := by
  rw [key, key, fullName, fullName, hspace, hname, harity]

theorem Surface.findType?_eq_some {surface : Surface} {type : DeclaredType}
    (hdistinct : (surface.types.map (·.identity)).Nodup) (htype : type ∈ surface.types) :
    surface.findType? type.identity = some type := by
  cases hfind : surface.findType? type.identity with
  | none =>
    have hnone := List.find?_eq_none.1 hfind type htype
    simp at hnone
  | some found =>
    have hsame : found.identity = type.identity := by simpa using List.find?_some hfind
    rw [List.inj_on_of_nodup_map hdistinct (List.mem_of_find?_eq_some hfind) htype hsame]

/-- Two types of a surface whose names read alike differ in arity or in the namespace they come
from. -/
theorem differ_of_inspect {inspector : Inspector} {modules : List Descriptor} {surface : Surface}
    (hinspect : (inspector.inspect modules).result = .ok surface) {type other : DeclaredType}
    (htype : type ∈ surface.types) (hother : other ∈ surface.types)
    (hne : type.identity ≠ other.identity)
    (hname : type.identity.name.display = other.identity.name.display) :
    type.identity.arity ≠ other.identity.arity ∨ type.identity.space ≠ other.identity.space := by
  have hdeclared : ∀ type ∈ surface.types,
      (Registry.ofModules modules).IsDeclared type.identity := by
    intro type htype
    exact isDeclared_of_describedBy (describedBy_of_inspect hinspect htype)
  by_contra hsame
  rw [not_or, not_not, not_not] at hsame
  have hkey := TypeIdentity.key_eq hsame.2 hname hsame.1
  exact hne ((hdeclared type htype).eq_of_key_eq (hdeclared other hother) hkey)

/-! ### Types of a declaration file -/

namespace TypeDeclaration

def name : TypeDeclaration → String
  | .enumeration name _ => name
  | .interface declaration => declaration.name

def parameters : TypeDeclaration → List String
  | .enumeration .. => []
  | .interface declaration => declaration.parameters

/-- A type is declared under its own name, with its own type parameters. -/
theorem signature_of_ofType {surface : Surface} {handlers : TypeHandlers} {type : DeclaredType}
    {declaration : TypeDeclaration} (hmade : ofType surface handlers type = .ok declaration) :
    declaration.name = type.identity.name.display ∧
      declaration.parameters.map Value.text = type.parameters := by
  unfold ofType at hmade
  unfold DeclaredType.parameters
  split at hmade
  · rename_i values hshape
    obtain ⟨members, -, hdeclaration⟩ := Outcome.bind_eq_ok_iff.1 hmade
    cases hdeclaration
    rw [hshape]
    exact ⟨rfl, rfl⟩
  · rename_i parameters members bases hshape
    obtain ⟨⟨⟩, htexts, hmade⟩ := Outcome.bind_eq_ok_iff.1 hmade
    obtain ⟨baseTypes, -, hmade⟩ := Outcome.bind_eq_ok_iff.1 hmade
    obtain ⟨_, -, hmade⟩ := Outcome.bind_eq_ok_iff.1 hmade
    obtain ⟨properties, -, hdeclaration⟩ := Outcome.bind_eq_ok_iff.1 hmade
    cases hdeclaration
    rw [hshape]
    have hsame : ∀ parameter ∈ parameters, Value.text parameter.display = parameter := by
      intro parameter hparameter
      obtain ⟨text, rfl⟩ :=
        Value.exists_text_of_isText (Value.requireTexts_eq_ok_iff.1 htexts parameter hparameter)
      rfl
    refine ⟨rfl, ?_⟩
    change (parameters.map (·.display)).map Value.text = parameters
    rw [List.map_map]
    exact (List.map_congr_left hsame).trans (List.map_id _)

end TypeDeclaration

namespace NamespaceDeclaration

/-- The types that a file declares at a path. -/
def typesAt (file : List NamespaceDeclaration) (path : List String) : List TypeDeclaration :=
  (file.filter (·.path == path)).flatMap (·.types)

section File

variable {surface : Surface} {handlers : TypeHandlers} {file : List NamespaceDeclaration}

theorem perm_typesAt (hplaced : surface.Placed) (hmade : ofSurface surface handlers = .ok file)
    (path : List String) :
    ((typesAt file path).map Except.ok).Perm
      ((surface.typesAt path).map (TypeDeclaration.ofType surface handlers)) := by
  have hhere : typesAt file path =
      file.flatMap fun declaration =>
        if declaration.path = path then declaration.types else [] := by
    have hothers : ∀ declaration : NamespaceDeclaration, (declaration.path == path) = false →
        (if declaration.path = path then declaration.types else []) = [] := by
      intro declaration hpath
      exact if_neg (by simpa using hpath)
    rw [← flatMap_filter_of_eq_nil hothers, typesAt]
    refine List.flatMap_congr fun declaration hmem => (if_pos ?_).symm
    simpa using (List.mem_filter.1 hmem).2
  rw [hhere]
  refine perm_flatMap_declarations hplaced hmade hplaced.types ?_ fun _ htypes _ => htypes
  intro space declaration hspace
  obtain ⟨-, htypes, -⟩ := parts_of_ofNamespace hspace
  exact (Outcome.map_eq_of_mapM htypes).symm

/-- The types declared at a path are those that stand there, each declared once. -/
theorem exists_perm_typesAt (hplaced : surface.Placed)
    (hmade : ofSurface surface handlers = .ok file)
    (path : List String) :
    ∃ declarations,
      (surface.typesAt path).mapM (TypeDeclaration.ofType surface handlers) = .ok declarations ∧
        (typesAt file path).Perm declarations := by
  have hperm := perm_typesAt hplaced hmade path
  have hall : ∀ type ∈ surface.typesAt path, ∃ declaration,
      TypeDeclaration.ofType surface handlers type = .ok declaration := by
    intro type htype
    obtain ⟨declaration, -, hdeclaration⟩ :=
      List.mem_map.1 (hperm.mem_iff.2 (List.mem_map_of_mem htype))
    exact ⟨declaration, hdeclaration.symm⟩
  obtain ⟨declarations, hdeclarations⟩ := Outcome.exists_mapM_eq_ok hall
  refine ⟨declarations, hdeclarations, ?_⟩
  rw [Outcome.map_eq_of_mapM hdeclarations] at hperm
  exact (List.map_perm_map_iff fun _ _ => Except.ok.inj).1 hperm

theorem perm_signatures (hplaced : surface.Placed) (hmade : ofSurface surface handlers = .ok file)
    (path : List String) :
    ((typesAt file path).map fun declaration =>
        (declaration.name, declaration.parameters.map Value.text)).Perm
      ((surface.typesAt path).map fun type => (type.identity.name.display, type.parameters)) := by
  obtain ⟨declarations, hdeclarations, hperm⟩ := exists_perm_typesAt hplaced hmade path
  refine (hperm.map _).trans (.of_eq ?_)
  refine (Outcome.map_eq_map_of_mapM hdeclarations fun type _ declaration hdeclaration => ?_).symm
  obtain ⟨hname, hparameters⟩ := TypeDeclaration.signature_of_ofType hdeclaration
  rw [hname, hparameters]

end File

end NamespaceDeclaration

/-! ### Lookups of a binding object -/

/-- The name of a lookup. -/
def BindingEntry.lookupName? : BindingEntry → Option String
  | .lookup name _ => some name
  | _ => none

theorem lookupNames_of_method {method : Method} {entries : List BindingEntry}
    (hmade : method.bindingEntries = .ok entries) :
    entries.filterMap BindingEntry.lookupName? = [] := by
  obtain ⟨parameters, -, hentries⟩ := Outcome.bind_eq_ok_iff.1 hmade
  cases hentries
  cases method.kind <;> rfl

/-- What is bound at a path has one lookup for each enumeration there. -/
theorem lookupNames_entriesAt {surface : Surface} {path : List String}
    {entries : List BindingEntry} (hmade : surface.entriesAt path = .ok entries) :
    entries.filterMap BindingEntry.lookupName? =
      (surface.enumerationsAt path).map (·.identity.name.display) := by
  obtain ⟨methodEntries, lookups, hmethods, hlookups, rfl⟩ := entriesAt_eq_ok_iff.1 hmade
  have hnone : methodEntries.flatten.filterMap BindingEntry.lookupName? = [] := by
    rw [List.filterMap_eq_nil_iff]
    intro entry hentry
    obtain ⟨made, hmem, hentry⟩ := List.mem_flatten.1 hentry
    obtain ⟨method, -, hmethod⟩ := Outcome.exists_of_mem_results hmethods hmem
    exact List.filterMap_eq_nil_iff.1 (lookupNames_of_method hmethod) entry hentry
  have hnames : (surface.enumerationsAt path).map (fun type => [type.identity.name.display]) =
      lookups.map (·.filterMap BindingEntry.lookupName?) := by
    refine Outcome.map_eq_map_of_mapM hlookups fun type htype entries hentries => ?_
    obtain ⟨pairs, rfl⟩ :=
      exists_lookup_of_bindingEntries (kind_of_mem_enumerationsAt htype) hentries
    rfl
  rw [List.filterMap_append, hnone, List.nil_append, List.filterMap_flatten, ← hnames]
  exact List.map_eq_flatMap.symm

namespace BindingObject

/-- An object stands at a path among some objects: it is one of them, or inside one of them. -/
inductive StandsAt : List BindingObject → List String → BindingObject → Prop
  | here {objects : List BindingObject} {object : BindingObject} :
    object ∈ objects → StandsAt objects [object.name] object
  | inside {objects : List BindingObject} {object last : BindingObject} {path : List String} :
    object ∈ objects → StandsAt object.inner path last → StandsAt objects (object.name :: path) last

section StandsAt

variable {surface : Surface} {path rest : List String} {name : String} {entries : List BindingEntry}
  {inner : List BindingObject} {object : BindingObject}

theorem Mirrors.of_standsAt (hmirrors : Mirrors surface path (.node name entries inner))
    (hstands : StandsAt inner rest object) : Mirrors surface (path ++ rest) object := by
  induction hstands generalizing path name entries with
  | here hmem =>
    obtain ⟨-, -, -, -, hinner⟩ := hmirrors
    exact hinner _ hmem
  | @inside objects object last rest hmem _ ih =>
    obtain ⟨-, -, -, -, hinner⟩ := hmirrors
    have hobject := hinner _ hmem
    obtain ⟨name, entries, inner⟩ := object
    have hlast := ih hobject
    rwa [List.append_assoc, List.singleton_append] at hlast

/-- Where something stands there is an object. -/
theorem Mirrors.exists_standsAt {child : String} (hmirrors : Mirrors surface path object)
    (hoccupied : surface.Occupied (path ++ child :: rest)) :
    ∃ last, StandsAt object.inner (child :: rest) last := by
  induction rest generalizing path child object with
  | nil =>
    obtain ⟨-, -, -, hcomplete, -⟩ := hmirrors
    obtain ⟨last, hlast, rfl⟩ := hcomplete child _ hoccupied List.prefix_rfl
    exact ⟨last, .here hlast⟩
  | cons next rest ih =>
    obtain ⟨-, -, -, hcomplete, hinner⟩ := hmirrors
    obtain ⟨middle, hmiddle, rfl⟩ := hcomplete child _ hoccupied ⟨next :: rest, by simp⟩
    obtain ⟨last, hlast⟩ := ih (hinner middle hmiddle) (by simpa using hoccupied)
    exact ⟨last, .inside hmiddle hlast⟩

end StandsAt

end BindingObject

section Objects

variable {surface : Surface} {objects : List BindingObject} {path : List String}
  {object : BindingObject}

/-- An object holds the entries of its path. -/
theorem entriesAt_of_standsAt (hplaced : surface.Placed)
    (hbound : BindingObject.ofSurface surface = .ok objects)
    (hstands : BindingObject.StandsAt objects path object) :
    surface.entriesAt path = .ok object.entries := by
  by_cases hmethods : surface.methods = []
  · rw [BindingObject.ofSurface, if_pos (by simpa using hmethods)] at hbound
    cases hbound
    cases hstands with
    | here hmem => cases hmem
    | inside hmem _ => cases hmem
  · have hmirrors := BindingObject.mirrors_of_ofSurface hplaced hmethods hbound
    obtain ⟨hentries, -⟩ := hmirrors.of_standsAt hstands
    exact hentries

/-- An object has one lookup for each enumeration that stands at its path. -/
theorem lookupNames_of_standsAt (hplaced : surface.Placed)
    (hbound : BindingObject.ofSurface surface = .ok objects)
    (hstands : BindingObject.StandsAt objects path object) :
    object.entries.filterMap BindingEntry.lookupName? =
      (surface.enumerationsAt path).map (·.identity.name.display) :=
  lookupNames_entriesAt (entriesAt_of_standsAt hplaced hbound hstands)

theorem exists_standsAt (hplaced : surface.Placed) (hmethods : surface.methods ≠ [])
    (hbound : BindingObject.ofSurface surface = .ok objects)
    (henumerations : surface.enumerationsAt path ≠ []) :
    ∃ object, BindingObject.StandsAt objects path object := by
  have hoccupied : surface.Occupied path := .inr henumerations
  obtain ⟨space, hspace, hsegments⟩ := hplaced.exists_space_of_occupied hoccupied
  obtain ⟨child, rest, hcons⟩ := List.exists_cons_of_ne_nil (hplaced.segments space hspace)
  rw [← hsegments, hcons] at hoccupied ⊢
  exact (BindingObject.mirrors_of_ofSurface hplaced hmethods hbound).exists_standsAt hoccupied

end Objects

/-! ### One by one -/

/-- No two of some types have names that read alike. -/
def NamesTell (types : List DeclaredType) : Prop :=
  ∀ type ∈ types, ∀ other ∈ types,
    type.identity.name.display = other.identity.name.display → type.identity = other.identity

theorem nodup_names_iff {types : List DeclaredType} (hdistinct : (types.map (·.identity)).Nodup) :
    (types.map (·.identity.name.display)).Nodup ↔ NamesTell types := by
  rw [List.nodup_map_iff_inj_on hdistinct.of_map, NamesTell]
  refine forall₂_congr fun type htype => forall₂_congr fun other hother =>
    imp_congr_right fun _ => ?_
  exact ⟨congrArg _, List.inj_on_of_nodup_map hdistinct htype hother⟩

/-- Each type of a surface is declared once where it stands. Types of one name therefore stay apart only if
no other type of that name stands there. -/
structure Surface.TypesDeclared (surface : Surface) (handlers : TypeHandlers)
    (file : List NamespaceDeclaration) : Prop where
  declared : ∀ path, ∃ declarations,
    (surface.typesAt path).mapM (TypeDeclaration.ofType surface handlers) = .ok declarations ∧
      (NamespaceDeclaration.typesAt file path).Perm declarations
  signatures : ∀ path,
    ((NamespaceDeclaration.typesAt file path).map fun declaration =>
        (declaration.name, declaration.parameters.map Value.text)).Perm
      ((surface.typesAt path).map fun type => (type.identity.name.display, type.parameters))
  once_iff : ∀ path,
    ((NamespaceDeclaration.typesAt file path).map (·.name)).Nodup ↔ NamesTell (surface.typesAt path)

/-- Each enumeration of a surface has one lookup where it stands, likewise. -/
structure Surface.TypesBound (surface : Surface) (objects : List BindingObject) : Prop where
  bound : ∀ path, surface.enumerationsAt path ≠ [] →
    ∃ object, BindingObject.StandsAt objects path object
  lookups : ∀ path object, BindingObject.StandsAt objects path object →
    object.entries.filterMap BindingEntry.lookupName? =
      (surface.enumerationsAt path).map (·.identity.name.display)
  once_iff : ∀ path object, BindingObject.StandsAt objects path object →
    ((object.entries.filterMap BindingEntry.lookupName?).Nodup ↔
      NamesTell (surface.enumerationsAt path))

/-- Without methods no types are found. -/
theorem types_eq_nil_of_inspect {inspector : Inspector} {modules : List Descriptor}
    {surface : Surface} (hinspect : (inspector.inspect modules).result = .ok surface)
    (hmethods : surface.methods = []) :
    surface.types = [] := by
  have hclosed : (Registry.ofModules modules).Closed surface.methods ∅ := by
    rw [hmethods]
    constructor <;> exact fun _ hmem => nomatch hmem
  refine List.eq_nil_iff_forall_not_mem.2 fun type htype => ?_
  exact mem_of_closed_of_inspect hinspect hclosed htype

section Inspected

variable {inspector : Inspector} {modules : List Descriptor} {surface : Surface}

theorem typesDeclared_of_ofSurface {handlers : TypeHandlers} {file : List NamespaceDeclaration}
    (hplaced : surface.Placed) (hdistinct : (surface.types.map (·.identity)).Nodup)
    (hdeclared : NamespaceDeclaration.ofSurface surface handlers = .ok file) :
    surface.TypesDeclared handlers file where
  declared := NamespaceDeclaration.exists_perm_typesAt hplaced hdeclared
  signatures := NamespaceDeclaration.perm_signatures hplaced hdeclared
  once_iff path := by
    have hnames := (NamespaceDeclaration.perm_signatures hplaced hdeclared path).map Prod.fst
    rw [List.map_map, List.map_map] at hnames
    refine hnames.nodup_iff.trans (nodup_names_iff (hdistinct.sublist ?_))
    exact List.filter_sublist.map _

theorem typesBound_of_ofSurface {objects : List BindingObject} (hplaced : surface.Placed)
    (hdistinct : (surface.types.map (·.identity)).Nodup)
    (hcalled : surface.methods = [] → surface.types = [])
    (hbound : BindingObject.ofSurface surface = .ok objects) : surface.TypesBound objects where
  bound path hpath := by
    refine exists_standsAt hplaced (fun hmethods => hpath ?_) hbound hpath
    rw [Surface.enumerationsAt, Surface.enumerations, hcalled hmethods]
    rfl
  lookups _ _ := lookupNames_of_standsAt hplaced hbound
  once_iff path object hstands := by
    rw [lookupNames_of_standsAt hplaced hbound hstands]
    refine nodup_names_iff (hdistinct.sublist ?_)
    exact (List.filter_sublist.trans List.filter_sublist).map _

/-- Two types of one name are told apart by their arities or the namespaces they come from. The declaration
file, if it is made, declares each type for itself, and the bindings, if they are made, look up each
enumeration for itself. -/
theorem typesWritten_of_inspect (handlers : TypeHandlers) (hreachable : inspector.resolver.Reachable)
    (hinspect : (inspector.inspect modules).result = .ok surface) :
    (∀ type ∈ surface.types, ∀ other ∈ surface.types, type.identity ≠ other.identity →
      type.identity.name.display = other.identity.name.display →
        type.identity.arity ≠ other.identity.arity ∨ type.identity.space ≠ other.identity.space) ∧
      (∀ file, NamespaceDeclaration.ofSurface surface handlers = .ok file →
        surface.TypesDeclared handlers file) ∧
      ∀ objects, BindingObject.ofSurface surface = .ok objects → surface.TypesBound objects := by
  have hplaced := placed_of_inspect hreachable hinspect
  have hdistinct := nodup_identities_of_inspect hinspect
  refine ⟨fun type htype other hother => differ_of_inspect hinspect htype hother, ?_, ?_⟩
  · exact fun file => typesDeclared_of_ofSurface hplaced hdistinct
  · exact fun objects => typesBound_of_ofSurface hplaced hdistinct (types_eq_nil_of_inspect hinspect)

end Inspected

/-! ### Outcomes -/

def plainOutcomeDecl : TypeDecl := objectDecl "trials" "Outcome" [] [] false

/-- An outcome that holds a value. -/
def heldOutcomeDecl : TypeDecl :=
  objectDecl "trials" "Outcome" [.text "T"]
    [{ name := .text "Value", type := .text "T", isStatic := false, isComputed := false }] false

def gradeDecl : TypeDecl where
  kind := .enumeration
  space := .text "trials"
  name := .text "Grade"
  parameters := []
  members := []
  items := []
  bases := []
  isValueType := true

/-- Outcomes with and without a value. -/
def trialsModule : Descriptor where
  assembly := .text "Trials"
  types := [plainOutcomeDecl, heldOutcomeDecl, gradeDecl]
  methods :=
    [invokableDecl "trials" "Trials" "Run" "Outcome",
      invokableDecl "trials" "Trials" "Mark" "Outcome<Grade>"]

def trialsInspector : Inspector where
  resolver := { rules := [] }

def plainOutcomeType : DeclaredType := objectType plainOutcomeDecl []

def heldOutcomeType : DeclaredType :=
  objectType heldOutcomeDecl
    [{ name := .text "Value", scriptName := .text "value", type := .parameter "T" }]

def gradeType : DeclaredType where
  identity := gradeDecl.identity
  scriptSpace := "trials"
  isValueType := true
  shape := .enumeration []

def runMethod : Method :=
  invokableMethod "trials" "Trials" "Run" "run" (.custom plainOutcomeDecl.identity)

def markMethod : Method :=
  invokableMethod "trials" "Trials" "Mark" "mark"
    (.generic heldOutcomeDecl.identity [.custom gradeDecl.identity])

def trialsSurface : Surface where
  methods := [runMethod, markMethod]
  types := [plainOutcomeType, heldOutcomeType, gradeType]
  namespaces := ["trials"]

def trialsRegistry : Registry where
  decls := [plainOutcomeDecl, heldOutcomeDecl, gradeDecl]

theorem describe_heldOutcomeDecl :
    describe trialsRegistry heldOutcomeDecl.identity heldOutcomeDecl "trials" =
      .ok heldOutcomeType := by
  cbv

theorem resolveValue_plainOutcome :
    trialsRegistry.resolveValue (.text "Outcome") "trials" [] = .ok runMethod.returns :=
  Registry.resolveValue_eq_ok_iff.2 ⟨_, .mk "Outcome" [] [], rfl, by cbv, by decide +kernel⟩

theorem resolveValue_heldOutcome :
    trialsRegistry.resolveValue (.text "Outcome<Grade>") "trials" [] = .ok markMethod.returns :=
  Registry.resolveValue_eq_ok_iff.2
    ⟨_, .mk "Outcome" [.mk "Grade" [] []] [], rfl, by cbv, by decide +kernel⟩

theorem inspect_trialsModule :
    (trialsInspector.inspect [trialsModule]).result = .ok trialsSurface := by
  have hdeclared : declareModules [trialsModule] ({}, { resolver := trialsInspector.resolver }) =
      (trialsRegistry, { resolver := trialsInspector.resolver }) := rfl
  refine inspect_of_takes hdeclared
    ⟨_, .next (.taken rfl rfl rfl rfl rfl rfl rfl resolveValue_plainOutcome rfl
      (@Explores.described _ _ _ _ _ plainOutcomeDecl _ plainOutcomeType rfl rfl rfl rfl rfl .done))
      (.next (.taken rfl rfl rfl rfl rfl rfl rfl resolveValue_heldOutcome rfl
        (@Explores.described _ _ _ _ _ heldOutcomeDecl _ heldOutcomeType rfl rfl rfl rfl
          describe_heldOutcomeDecl
          (@Explores.described _ _ _ _ _ gradeDecl _ gradeType rfl rfl rfl rfl rfl .done)))
        .done), ?_⟩
  rfl

def trialsFile : List NamespaceDeclaration :=
  [{ path := ["trials"]
     types :=
      [.interface { name := "Outcome", parameters := [], bases := [], properties := [] },
        .interface
          { name := "Outcome", parameters := ["T"], bases := [],
            properties := [{ name := "value", isOptional := false, type := .parameter "T" }] },
        .enumeration "Grade" []]
     methods :=
      [{ kind := .invokable, name := "run", parameters := [],
         result := some (.declared none "Outcome") },
        { kind := .invokable, name := "mark", parameters := [],
          result := some (.instance none "Outcome" [.declared none "Grade"]) }] }]

theorem declared_trialsSurface :
    NamespaceDeclaration.ofSurface trialsSurface [] = .ok trialsFile := by
  cbv

/-- Outcomes are declared twice in one namespace, once with a type parameter. -/
theorem outcome_declared_twice :
    (trialsInspector.inspect [trialsModule]).result = .ok trialsSurface ∧
      NamespaceDeclaration.ofSurface trialsSurface [] = .ok trialsFile ∧
      plainOutcomeType ∈ trialsSurface.types ∧ heldOutcomeType ∈ trialsSurface.types ∧
      plainOutcomeType.identity ≠ heldOutcomeType.identity ∧
      plainOutcomeType.scriptSpace = heldOutcomeType.scriptSpace ∧
      plainOutcomeType.identity.name = heldOutcomeType.identity.name ∧
      (NamespaceDeclaration.typesAt trialsFile ["trials"]).map
          (fun declaration => (declaration.name, declaration.parameters)) =
        [("Outcome", []), ("Outcome", ["T"]), ("Grade", [])] :=
  ⟨inspect_trialsModule, declared_trialsSurface, by simp [trialsSurface], by simp [trialsSurface],
    by decide, rfl, rfl, rfl⟩

/-- The enumeration has one lookup, since no other has its name. -/
theorem typesWritten_trialsSurface :
    (trialsInspector.inspect [trialsModule]).result = .ok trialsSurface ∧
      trialsSurface.TypesDeclared [] trialsFile ∧
      ∃ objects, BindingObject.ofSurface trialsSurface = .ok objects ∧
        trialsSurface.TypesBound objects ∧
        ∃ object, BindingObject.StandsAt objects ["trials"] object ∧
          object.entries.filterMap BindingEntry.lookupName? = ["Grade"] := by
  have hreachable : trialsInspector.resolver.Reachable :=
    @Namespace.Resolver.Reachable.made [] _ rfl
  have hbindable : trialsSurface.Bindable := by
    have hnone : ∀ type ∈ trialsSurface.types, type.values = [] := by decide
    refine ⟨by decide, by decide, ?_⟩
    intro type htype entry hentry
    rw [hnone type htype] at hentry
    cases hentry
  obtain ⟨objects, hobjects⟩ := ((placed_of_inspect hreachable inspect_trialsModule).exists_bindings_iff
    (List.cons_ne_nil _ _)).2 hbindable
  obtain ⟨-, hdeclared, hbound⟩ := typesWritten_of_inspect [] hreachable inspect_trialsModule
  have hwritten := hbound objects hobjects
  obtain ⟨object, hobject⟩ := hwritten.bound ["trials"] (by decide)
  exact ⟨inspect_trialsModule, hdeclared _ declared_trialsSurface, objects, hobjects, hwritten, object,
    hobject, hwritten.lookups _ object hobject⟩

end ScriptBridge
