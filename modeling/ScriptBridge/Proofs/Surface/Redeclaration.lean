import ScriptBridge.Proofs.Descriptor.Declarations
import ScriptBridge.Proofs.Surface.Reach
import ScriptBridge.Proofs.Surface.Selection

/-!
# Types that are declared again

A declaration of a key that an earlier document has is left out with a warning. One of a key that its own
document has before takes the place of that one, and this is not told. So what is reported falls short of
what is declared again by as many declarations as do not stand in their documents.
-/

namespace ScriptBridge

/-! ### Counting firsts and repeats -/

section Earlier

variable {α β κ : Type} [DecidableEq κ] {key : α → κ} {earlier xs ys : List α}

theorem length_firsts_add_length_repeats (key : α → κ) (earlier xs : List α) :
    (firsts key earlier xs).length + (repeats key earlier xs).length = xs.length := by
  induction xs generalizing earlier with
  | nil => rfl
  | cons x xs ih =>
    have hrest := ih (earlier ++ [x])
    by_cases hmem : key x ∈ earlier.map key
    · rw [firsts_cons_of_mem hmem, repeats_cons_of_mem hmem, List.length_cons, List.length_cons]
      omega
    · rw [firsts_cons_of_not_mem hmem, repeats_cons_of_not_mem hmem, List.length_cons,
        List.length_cons]
      omega

theorem mem_map_firsts_iff {k : κ} :
    k ∈ (firsts key earlier xs).map key ↔ k ∈ xs.map key ∧ k ∉ earlier.map key := by
  induction xs generalizing earlier with
  | nil => simp [firsts, withEarlier]
  | cons x xs ih =>
    by_cases hmem : key x ∈ earlier.map key
    · rw [firsts_cons_of_mem hmem, ih]
      simp only [List.map_append, List.map_cons, List.map_nil, List.mem_append, List.mem_cons,
        List.not_mem_nil, or_false]
      grind
    · rw [firsts_cons_of_not_mem hmem, List.map_cons, List.mem_cons, ih]
      simp only [List.map_append, List.map_cons, List.map_nil, List.mem_append, List.mem_cons,
        List.not_mem_nil, or_false]
      grind

/-- Lists with the same keys have as many firsts. -/
theorem length_firsts_eq {key' : β → κ} {others : List β}
    (hkeys : ∀ k, k ∈ xs.map key ↔ k ∈ others.map key') :
    (firsts key [] xs).length = (firsts key' [] others).length := by
  have hperm : ((firsts key [] xs).map key).Perm ((firsts key' [] others).map key') := by
    refine (List.perm_ext_iff_of_nodup (nodup_map_firsts [] xs) (nodup_map_firsts [] others)).2
      fun k => ?_
    rw [mem_map_firsts_iff, mem_map_firsts_iff, hkeys k, List.map_nil, List.map_nil]
  rw [← List.length_map key, hperm.length_eq, List.length_map]

theorem repeats_append :
    repeats key earlier (xs ++ ys) = repeats key earlier xs ++ repeats key (earlier ++ xs) ys := by
  induction xs generalizing earlier with
  | nil => rw [List.append_nil]; rfl
  | cons x xs ih =>
    have hrest := @ih (earlier ++ [x])
    rw [List.append_assoc, List.singleton_append] at hrest
    by_cases hmem : key x ∈ earlier.map key
    · rw [List.cons_append, repeats_cons_of_mem hmem, repeats_cons_of_mem hmem, hrest, List.cons_append]
    · rw [List.cons_append, repeats_cons_of_not_mem hmem, repeats_cons_of_not_mem hmem, hrest]

/-- Elements of distinct keys repeat only what is before all of them. -/
theorem repeats_of_nodup (hnodup : (xs.map key).Nodup) :
    repeats key earlier xs = xs.filter fun x => key x ∈ earlier.map key := by
  induction xs generalizing earlier with
  | nil => rfl
  | cons x xs ih =>
    obtain ⟨hfresh, hrest⟩ := List.nodup_cons.1 hnodup
    have hsame : xs.filter (fun y => key y ∈ (earlier ++ [x]).map key) =
        xs.filter fun y => key y ∈ earlier.map key := by
      refine List.filter_congr fun y hy => ?_
      have hne : key y ≠ key x := fun heq => hfresh (heq ▸ List.mem_map_of_mem hy)
      rw [List.map_append, List.map_singleton]
      simp only [List.mem_append, List.mem_singleton, hne, or_false]
    by_cases hmem : key x ∈ earlier.map key
    · rw [repeats_cons_of_mem hmem, ih hrest, hsame, List.filter_cons_of_pos (by simpa using hmem)]
    · rw [repeats_cons_of_not_mem hmem, ih hrest, hsame, List.filter_cons_of_neg (by simpa using hmem)]

end Earlier

/-! ### Sources

A source is what an assembly declares, in its order. -/

/-- An assembly with the types that its document declares. -/
abbrev Source := Value × List TypeDecl

/-- What a document states: the assembly of its descriptor, and each of its declarations. -/
def Descriptor.stated (document : Value) (source : String) : Except Error Source := do
  let module ← ofValue document source
  let decls ← declarationsIn document
  return (module.assembly, decls)

namespace Source

def declarations (sources : List Source) : List (Value × TypeDecl) :=
  sources.flatMap fun source => source.2.map (source.1, ·)

def keyOf (entry : Value × TypeDecl) : Int ⊕ Value := entry.2.key.keyed

/-- The declarations whose keys have been declared before, by the same source or another. -/
def again (sources : List Source) : List (Value × TypeDecl) :=
  repeats keyOf [] (declarations sources)

/-- The sources with the declarations that stand in each. -/
def standing (sources : List Source) : List Source :=
  sources.map fun source => (source.1, TypeDecl.standing source.2)

/-- The warning for a declaration that is left out. -/
def warning : Value × TypeDecl → String
  | (assembly, decl) =>
    assembly.display ++ ": type " ++ decl.key.display ++ " is already declared, ignoring"

/-- What is reported of some sources. -/
def reported (sources : List Source) : List String :=
  (again (standing sources)).map warning

/-- The declaration that is found under a key: the last one in the first source that has any. -/
def found? (sources : List Source) (key : String) : Option TypeDecl :=
  sources.findSome? fun source => source.2.reverse.find? (·.key == .text key)

variable {sources : List Source}

theorem declarations_append (sources others : List Source) :
    declarations (sources ++ others) = declarations sources ++ declarations others :=
  List.flatMap_append

theorem length_declarations_standing_le (sources : List Source) :
    (declarations (standing sources)).length ≤ (declarations sources).length := by
  induction sources with
  | nil => exact Nat.le_refl 0
  | cons source sources ih =>
    have hsource := TypeDecl.length_standing_le source.2
    simp only [declarations, standing, List.map_cons, List.flatMap_cons, List.length_append,
      List.length_map] at ih ⊢
    omega

theorem length_declarations_standing_eq_iff :
    (declarations (standing sources)).length = (declarations sources).length ↔
      ∀ source ∈ sources, TypeDecl.KeysDistinct source.2 := by
  induction sources with
  | nil => simp [standing]
  | cons source sources ih =>
    have hsource := TypeDecl.length_standing_le source.2
    have hsources := length_declarations_standing_le sources
    rw [List.forall_mem_cons, ← ih, ← TypeDecl.length_standing_eq_iff]
    simp only [declarations, standing, List.map_cons, List.flatMap_cons, List.length_append,
      List.length_map] at hsources ⊢
    omega

theorem mem_keys_declarations_iff {key : Int ⊕ Value} :
    key ∈ (declarations sources).map keyOf ↔
      ∃ source ∈ sources, key ∈ source.2.map (·.key.keyed) := by
  simp only [declarations, List.map_flatMap, List.map_map, List.mem_flatMap]
  rfl

/-- What is reported falls short of what is declared again by what does not stand. -/
theorem length_reported (sources : List Source) :
    (reported sources).length + (declarations sources).length =
      (again sources).length + (declarations (standing sources)).length := by
  have hkeys : ∀ key, key ∈ (declarations (standing sources)).map keyOf ↔
      key ∈ (declarations sources).map keyOf := by
    intro key
    rw [mem_keys_declarations_iff, mem_keys_declarations_iff]
    constructor
    · rintro ⟨_, hstanding, hkey⟩
      obtain ⟨source, hsource, rfl⟩ := List.mem_map.1 hstanding
      exact ⟨source, hsource, (TypeDecl.mem_keys_standing_iff source.2 key).1 hkey⟩
    · rintro ⟨source, hsource, hkey⟩
      exact ⟨_, List.mem_map_of_mem hsource, (TypeDecl.mem_keys_standing_iff source.2 key).2 hkey⟩
  have hfirsts := length_firsts_eq hkeys
  have hall := length_firsts_add_length_repeats keyOf [] (declarations sources)
  have hstanding := length_firsts_add_length_repeats keyOf [] (declarations (standing sources))
  rw [reported, List.length_map, again, again]
  omega

/-- All that is declared again is reported just if no source declares a key twice. -/
theorem length_reported_eq_iff :
    (reported sources).length = (again sources).length ↔
      ∀ source ∈ sources, TypeDecl.KeysDistinct source.2 := by
  have hlength := length_reported sources
  rw [← length_declarations_standing_eq_iff]
  omega

theorem standing_of_distinct (hdistinct : ∀ source ∈ sources, TypeDecl.KeysDistinct source.2) :
    standing sources = sources := by
  refine (List.map_congr_left fun source hsource => ?_).trans (List.map_id sources)
  rw [TypeDecl.standing_of_distinct (hdistinct source hsource)]
  rfl

theorem reported_of_distinct (hdistinct : ∀ source ∈ sources, TypeDecl.KeysDistinct source.2) :
    reported sources = (again sources).map warning := by
  rw [reported, standing_of_distinct hdistinct]

/-- Where no source declares a key twice, the first declaration of each key is found. -/
theorem found?_of_distinct (hdistinct : ∀ source ∈ sources, TypeDecl.KeysDistinct source.2)
    (key : String) :
    found? sources key = ((declarations sources).map (·.2)).find? (·.key == .text key) := by
  have hdecls : (declarations sources).map (·.2) = sources.flatMap (·.2) := by
    rw [declarations, List.map_flatMap]
    refine List.flatMap_congr fun source _ => ?_
    rw [List.map_map]
    exact List.map_id source.2
  rw [hdecls, List.find?_flatMap, found?]
  clear hdecls
  induction sources with
  | nil => rfl
  | cons source sources ih =>
    obtain ⟨hsource, hsources⟩ := List.forall_mem_cons.1 hdistinct
    have hlast := hsource.find?_perm (List.reverse_perm source.2) key
    rw [List.findSome?_cons, List.findSome?_cons, hlast, ih hsources]

end Source

/-! ### Sources and modules -/

/-- An assembly with the types of its module. -/
def Descriptor.source (module : Descriptor) : Source :=
  (module.assembly, module.types)

section Modules

variable {modules : List Descriptor} {sources : List Source} {documents : List (Value × String)}

theorem stated_of_ofValue {document : Value} {source : String} {module : Descriptor}
    (hread : Descriptor.ofValue document source = .ok module) :
    ∃ stated, Descriptor.stated document source = .ok stated ∧
      module.source = (stated.1, TypeDecl.standing stated.2) := by
  obtain ⟨decls, hdecls, htypes⟩ := Descriptor.exists_declarationsIn_of_ofValue hread
  refine ⟨(module.assembly, decls), ?_, by rw [Descriptor.source, htypes]⟩
  exact Outcome.bind_eq_ok_iff.2 ⟨module, hread, Outcome.bind_eq_ok_iff.2 ⟨decls, hdecls, rfl⟩⟩

/-- The types of modules are those that stand in the sources that their documents state. -/
theorem exists_sources_of_mapM
    (hread : documents.mapM (fun given => Descriptor.ofValue given.1 given.2) = .ok modules) :
    ∃ sources, documents.mapM (fun given => Descriptor.stated given.1 given.2) = .ok sources ∧
      modules.map Descriptor.source = Source.standing sources := by
  have hall := Outcome.mapM_eq_ok_iff.1 hread
  clear hread
  induction hall with
  | nil => exact ⟨[], rfl, rfl⟩
  | cons hmodule _ ih =>
    obtain ⟨sources, hsources, hrest⟩ := ih
    obtain ⟨stated, hstated, hsource⟩ := stated_of_ofValue hmodule
    refine ⟨stated :: sources, ?_, ?_⟩
    · exact Outcome.mapM_eq_ok_iff.2 (.cons hstated (Outcome.mapM_eq_ok_iff.1 hsources))
    · rw [List.map_cons, hrest, hsource]
      rfl

theorem mem_keys_source_iff {earlier : List Descriptor} {key : Value} :
    key.keyed ∈ (Source.declarations (earlier.map Descriptor.source)).map Source.keyOf ↔
      earlier.any (·.declares key) = true := by
  rw [Source.mem_keys_declarations_iff]
  simp only [List.mem_map, exists_exists_and_eq_and, List.any_eq_true, Descriptor.declares,
    Descriptor.source, Value.isSameKey_iff]

/-- Modules of distinct types are warned of for each declaration whose key has been declared before. -/
theorem redeclared_eq_repeats (hkeys : ∀ module ∈ modules, TypeDecl.KeysDistinct module.types)
    (earlier : List Descriptor) :
    redeclared earlier modules =
      (repeats Source.keyOf (Source.declarations (earlier.map Descriptor.source))
        (Source.declarations (modules.map Descriptor.source))).map Source.warning := by
  induction modules generalizing earlier with
  | nil => rfl
  | cons module modules ih =>
    obtain ⟨hmodule, hmodules⟩ := List.forall_mem_cons.1 hkeys
    have hhead : Source.declarations ((module :: modules).map Descriptor.source) =
        module.types.map (module.assembly, ·) ++
          Source.declarations (modules.map Descriptor.source) := List.flatMap_cons
    have hearlier : Source.declarations (earlier.map Descriptor.source) ++
        module.types.map (module.assembly, ·) =
          Source.declarations ((earlier ++ [module]).map Descriptor.source) := by
      rw [List.map_append, Source.declarations_append]
      exact congrArg _ (List.append_nil _).symm
    have hnodup : ((module.types.map (module.assembly, ·)).map Source.keyOf).Nodup := by
      rw [List.map_map]
      exact TypeDecl.KeysDistinct.iff_nodup.1 hmodule
    rw [hhead, repeats_append, repeats_of_nodup hnodup, hearlier, List.map_append,
      ← ih hmodules (earlier ++ [module])]
    rw [redeclared, withEarlier, List.flatMap_cons]
    refine congrArg₂ _ ?_ rfl
    rw [List.filter_map, List.map_map]
    refine congrArg₂ List.map rfl (List.filter_congr fun decl _ => ?_)
    rw [Function.comp_apply, Bool.eq_iff_iff, ← mem_keys_source_iff]
    simp only [decide_eq_true_eq]
    rfl

theorem find?_standing (decls : List TypeDecl) (key : String) :
    (TypeDecl.standing decls).find? (·.key == .text key) =
      decls.reverse.find? (·.key == .text key) := by
  have hfind := TypeDecl.findType?_standing decls (.text key)
  unfold Descriptor.findType? at hfind
  simpa only [Value.isSameKey_text] using hfind

/-- What is found under a key is found among the sources. -/
theorem find?_of_sources (hsources : modules.map Descriptor.source = Source.standing sources)
    (key : String) : (Registry.ofModules modules).find? key = Source.found? sources key := by
  have htypes : modules.flatMap (·.types) = (modules.map Descriptor.source).flatMap (·.2) := by
    rw [List.flatMap_map]
    rfl
  rw [Registry.find?_ofModules, htypes, hsources, Source.standing, List.flatMap_map, List.find?_flatMap,
    Source.found?]
  simp only [find?_standing]

/-- The warnings of an inspection are those for the types declared again and those for the methods that
are dropped. -/
theorem warnings_of_inspect {inspector : Inspector} {surface : Surface}
    (hkeys : ∀ module ∈ modules, TypeDecl.KeysDistinct module.types)
    (hinspect : (inspector.inspect modules).result = .ok surface) :
    ∃ drops, surface.warnings = redeclared [] modules ++ drops ∧
      List.Forall₂ (DroppedWith inspector.resolver)
        (repeats (targetOf inspector.resolver) [] (keptMethods inspector.ignores modules)) drops := by
  obtain ⟨after, htakes, rfl⟩ := takes_declared_of_inspect hinspect
  have hdeclared := @warnings_declareModules modules hkeys [] {}
    { resolver := inspector.resolver } fun _ => rfl
  obtain ⟨warnings, log, hstart⟩ := snd_declareModules modules {} { resolver := inspector.resolver }
  rw [hstart] at htakes hdeclared
  obtain ⟨-, ⟨drops, hwarnings, hdrops⟩, -⟩ := Selects.of_takes htakes (ClaimedBy.start _ rfl)
  exact ⟨drops, hwarnings.trans (congrArg (· ++ drops) hdeclared), hdrops⟩

end Modules

/-- Of the declarations of one key, the last one in the first document that has any is crawled. What is
reported is each key of a document that a document before it has, and the methods that are dropped. So all
that is declared again is reported just if no document declares a key twice, and then the first
declaration of each key is crawled. -/
theorem redeclarations_of_inspect {documents : List (Value × String)} {modules : List Descriptor}
    {inspector : Inspector} {surface : Surface}
    (hread : documents.mapM (fun given => Descriptor.ofValue given.1 given.2) = .ok modules)
    (hinspect : (inspector.inspect modules).result = .ok surface) :
    ∃ sources, documents.mapM (fun given => Descriptor.stated given.1 given.2) = .ok sources ∧
      (∀ type ∈ surface.types, ∃ decl, Source.found? sources type.identity.key = some decl ∧
        decl.identity = type.identity ∧
        describe (Registry.ofModules modules) decl.identity decl type.scriptSpace = .ok type) ∧
      (∃ drops, surface.warnings = Source.reported sources ++ drops ∧
        List.Forall₂ (DroppedWith inspector.resolver)
          (repeats (targetOf inspector.resolver) [] (keptMethods inspector.ignores modules)) drops) ∧
      ((Source.reported sources).length = (Source.again sources).length ↔
        ∀ source ∈ sources, TypeDecl.KeysDistinct source.2) ∧
      ((∀ source ∈ sources, TypeDecl.KeysDistinct source.2) →
        Source.reported sources = (Source.again sources).map Source.warning ∧
        ∀ key, Source.found? sources key =
          ((Source.declarations sources).map (·.2)).find? (·.key == .text key)) := by
  obtain ⟨sources, hstated, hsources⟩ := exists_sources_of_mapM hread
  have hkeys : ∀ module ∈ modules, TypeDecl.KeysDistinct module.types := by
    intro module hmodule
    obtain ⟨given, -, hgiven⟩ := Outcome.exists_of_mem_results hread hmodule
    exact Descriptor.keysDistinct_of_ofValue hgiven
  have hreported : redeclared [] modules = Source.reported sources := by
    rw [redeclared_eq_repeats hkeys, hsources]
    rfl
  refine ⟨sources, hstated, fun type htype => ?_, ?_, Source.length_reported_eq_iff, fun hdistinct => ?_⟩
  · obtain ⟨decl, space, hfind, hidentity, -, -, hdescribe⟩ := describedBy_of_inspect hinspect htype
    rw [find?_of_sources hsources] at hfind
    exact ⟨decl, hfind, hidentity, hdescribe⟩
  · rw [← hreported]
    exact warnings_of_inspect hkeys hinspect
  · exact ⟨Source.reported_of_distinct hdistinct, Source.found?_of_distinct hdistinct⟩

/-! ### A crate declared twice -/

/-- A crate is an object, and then again something that is full. -/
def depotDocument : Value :=
  .record [("assembly", .text "Depot"),
    ("methods", .list [.record [("kind", .text "event"), ("namespace", .text "depot"),
      ("name", .text "Moved"), ("returns", .text "Crate")]]),
    ("types", .list [.record [("namespace", .text "depot"), ("name", .text "Crate")],
      .record [("kind", .text "enum"), ("namespace", .text "depot"), ("name", .text "Crate"),
        ("items", .list [.record [("name", .text "Full")]])]])]

/-- A yard has crates of its own. -/
def yardDocument : Value :=
  .record [("assembly", .text "Yard"),
    ("types", .list [.record [("namespace", .text "depot"), ("name", .text "Crate")]])]

def crateDecl : TypeDecl where
  kind := .object
  space := .text "depot"
  name := .text "Crate"
  parameters := []
  members := []
  items := []
  bases := []
  isValueType := false

def fullCrateDecl : TypeDecl :=
  { crateDecl with
    kind := .enumeration, items := [{ name := .text "Full", value := none }], isValueType := true }

def depotModule : Descriptor where
  assembly := .text "Depot"
  types := [fullCrateDecl]
  methods := [{ kind := "event", space := .text "depot", owner := .text "", name := .text "Moved",
                parameters := [], returns := .text "Crate" }]

def yardModule : Descriptor where
  assembly := .text "Yard"
  types := [crateDecl]

def depotInspector : Inspector where
  resolver := { rules := [] }

def crateType : DeclaredType where
  identity := crateDecl.identity
  scriptSpace := "depot"
  isValueType := true
  shape := .enumeration [{ name := .text "Full", value := 0 }]

def depotSurface : Surface where
  methods :=
    [{ kind := .event, assembly := .text "Depot", owner := .text "", space := "depot",
       scriptSpace := "depot", name := "Moved", scriptName := "moved", arguments := [],
       returns := .custom crateDecl.identity }]
  types := [crateType]
  namespaces := ["depot"]

theorem ofValue_depot : Descriptor.ofValue depotDocument "" = .ok depotModule := by
  rfl

theorem ofValue_yard : Descriptor.ofValue yardDocument "" = .ok yardModule := by
  rfl

def depotRegistry : Registry where
  decls := [fullCrateDecl]

theorem resolveValue_crate :
    depotRegistry.resolveValue (.text "Crate") "depot" [] = .ok (.custom crateDecl.identity) :=
  Registry.resolveValue_eq_ok_iff.2 ⟨_, .mk "Crate" [] [], rfl, by cbv, by decide +kernel⟩

theorem inspect_depot : (depotInspector.inspect [depotModule]).result = .ok depotSurface := by
  have hregistry : (declareModules [depotModule] ({}, { resolver := depotInspector.resolver })).1 =
      depotRegistry := rfl
  refine inspect_of_takes (Prod.ext hregistry rfl)
    ⟨_, .next (.taken rfl rfl rfl rfl rfl rfl rfl resolveValue_crate rfl
      (@Explores.described _ _ _ _ _ fullCrateDecl _ crateType rfl rfl rfl rfl rfl .done)) .done, ?_⟩
  rfl

theorem inspect_depot_yard : (depotInspector.inspect [depotModule, yardModule]).result =
    .ok { depotSurface with
      warnings := ["Yard: type depot.Crate is already declared, ignoring"] } := by
  have hregistry : (declareModules [depotModule, yardModule]
      ({}, { resolver := depotInspector.resolver })).1 = depotRegistry := rfl
  refine inspect_of_takes (Prod.ext hregistry rfl)
    ⟨_, .next (.taken rfl rfl rfl rfl rfl rfl rfl resolveValue_crate rfl
      (@Explores.described _ _ _ _ _ fullCrateDecl _ crateType rfl rfl rfl rfl rfl .done)) .done, ?_⟩
  rfl

/-- The crate of the yard is reported and the first one of the depot is not: of three declarations two are
declared again. -/
theorem redeclarations_depot_yard :
    [(depotDocument, ""), (yardDocument, "")].mapM
        (fun given => Descriptor.ofValue given.1 given.2) = .ok [depotModule, yardModule] ∧
      (depotInspector.inspect [depotModule, yardModule]).result =
        .ok { depotSurface with
          warnings := ["Yard: type depot.Crate is already declared, ignoring"] } ∧
      ∃ sources, [(depotDocument, ""), (yardDocument, "")].mapM
          (fun given => Descriptor.stated given.1 given.2) = .ok sources ∧
        ∃ decl, Source.found? sources crateType.identity.key = some decl ∧
          describe (Registry.ofModules [depotModule, yardModule]) decl.identity decl "depot" =
            .ok crateType := by
  have hread : [(depotDocument, ""), (yardDocument, "")].mapM
      (fun given => Descriptor.ofValue given.1 given.2) = .ok [depotModule, yardModule] :=
    Outcome.mapM_eq_ok_iff.2 (.cons ofValue_depot (.cons ofValue_yard .nil))
  obtain ⟨sources, hsources, htypes, -⟩ := redeclarations_of_inspect hread inspect_depot_yard
  obtain ⟨decl, hfound, -, hdescribe⟩ := htypes crateType (List.mem_singleton.2 rfl)
  exact ⟨hread, inspect_depot_yard, sources, hsources, decl, hfound, hdescribe⟩

/-- The depot declares its crate twice. The second declaration is the one that is crawled, and the
inspection warns of nothing. -/
theorem crate_redeclared_silently :
    Descriptor.ofValue depotDocument "" = .ok depotModule ∧
      Descriptor.stated depotDocument "" = .ok (.text "Depot", [crateDecl, fullCrateDecl]) ∧
      crateDecl.key = fullCrateDecl.key ∧
      (depotInspector.inspect [depotModule]).result = .ok depotSurface ∧
      depotSurface.warnings = [] ∧
      ∃ type ∈ depotSurface.types, type.identity.key = "depot.Crate" ∧
        describe depotRegistry fullCrateDecl.identity fullCrateDecl "depot" = .ok type ∧
        describe depotRegistry crateDecl.identity crateDecl "depot" ≠ .ok type := by
  refine ⟨ofValue_depot, rfl, rfl, inspect_depot, rfl, crateType, List.mem_singleton.2 rfl, by decide,
    rfl, ?_⟩
  intro hdescribe
  cases hdescribe

end ScriptBridge
