import ScriptBridge.Proofs.Descriptor.Keys
import ScriptBridge.Proofs.Session.Coherence
import ScriptBridge.Proofs.Surface.Reruns
import ScriptBridge.Proofs.TypeRef.Precedence

/-!
# Where types are declared

A type may be declared in any place of any module. As long as no key is declared twice, neither what is
found nor what is reported depends on the places, since a declaration is only ever looked up by its key.
-/

namespace ScriptBridge

/-! ### Declaring distinct keys -/

section Declaring

variable {registry : Registry} {found : Discovery}

/-- No declaration of a distinct key is left out, and none is reported. -/
theorem declareTypes_of_distinct (assembly : Value) {decls : List TypeDecl}
    (hdistinct : TypeDecl.KeysDistinct (registry.decls ++ decls)) :
    declareTypes assembly decls (registry, found) = ({ decls := registry.decls ++ decls }, found) := by
  induction decls generalizing registry with
  | nil => rw [declareTypes, List.append_nil]
  | cons decl decls ih =>
    have hfresh : registry.declares decl.key = false := by
      refine List.any_eq_false.2 fun earlier hearlier => ?_
      have hne := (List.pairwise_append.1 hdistinct).2.2 earlier hearlier decl List.mem_cons_self
      rw [hne]
      exact Bool.false_ne_true
    have hrest : (registry.add decl).decls ++ decls = registry.decls ++ decl :: decls := by
      rw [Registry.add, List.append_assoc, List.singleton_append]
    rw [declareTypes, if_neg (Bool.eq_false_iff.1 hfresh), ih (hrest ▸ hdistinct), hrest]

theorem declareModules_of_distinct {modules : List Descriptor}
    (hdistinct : TypeDecl.KeysDistinct (registry.decls ++ modules.flatMap (·.types))) :
    declareModules modules (registry, found) =
      ({ decls := registry.decls ++ modules.flatMap (·.types) }, found) := by
  unfold declareModules
  induction modules generalizing registry with
  | nil => rw [List.foldl_nil, List.flatMap_nil, List.append_nil]
  | cons module modules ih =>
    rw [List.flatMap_cons, ← List.append_assoc] at hdistinct ⊢
    have hhead := @declareTypes_of_distinct _ found module.assembly _
      (List.pairwise_append.1 hdistinct).1
    rw [List.foldl_cons, hhead]
    exact ih hdistinct

theorem Inspector.declared_of_distinct (inspector : Inspector) {modules : List Descriptor}
    (hdistinct : TypeDecl.KeysDistinct (modules.flatMap (·.types))) :
    inspector.declared modules = { resolver := inspector.resolver } :=
  congrArg Prod.snd (@declareModules_of_distinct {} _ _ hdistinct)

end Declaring

/-! ### Registries that find the same

Whatever is asked of a registry is asked through what it finds by a key. -/

section Lookup

variable {registry other : Registry}

namespace Registry

theorem resolveValue_congr (hfind : other.find? = registry.find?) (given : Value) (space : String)
    (parameters : List String) :
    other.resolveValue given space parameters = registry.resolveValue given space parameters := by
  have hresolve : other.resolve space parameters = registry.resolve space parameters := by
    funext expr
    exact resolve_congr expr fun name arity _ => lookup?_congr fun key _ => congrFun hfind key
  unfold resolveValue resolveText
  rw [hresolve]

end Registry

theorem describe_congr (hfind : other.find? = registry.find?) (identity : TypeIdentity)
    (decl : TypeDecl) (scriptSpace : String) :
    describe other identity decl scriptSpace = describe registry identity decl scriptSpace := by
  unfold describe shapeOf membersOf basesOf
  simp only [Registry.resolveValue_congr hfind]

theorem signatureOf_congr (hfind : other.find? = registry.find?) (decl : MethodDecl) :
    signatureOf other decl = signatureOf registry decl := by
  unfold signatureOf argumentsOf
  simp only [Registry.resolveValue_congr hfind]

theorem discover_congr (hfind : other.find? = registry.find?) (pending : List TypeIdentity)
    (found : Discovery) : discover other pending found = discover registry pending found := by
  induction pending, found using discover.induct registry with
  | case1 found => rw [discover_nil, discover_nil]
  | case2 found identity rest hknown ih =>
    rw [discover_cons_of_passed rest (.inl hknown), discover_cons_of_passed rest (.inl hknown), ih]
  | case3 found identity rest hknown hnone ih =>
    rw [discover_cons_of_passed rest (.inr hnone),
      discover_cons_of_passed rest (.inr (hfind ▸ hnone)), ih]
  | case4 found identity rest hknown decl hdecl after e hspace =>
    rw [discover_cons, discover_cons, hfind]
    simp only [if_neg hknown, hdecl, hspace]
  | case5 found identity rest hknown decl hdecl after scriptSpace hspace e hdescribe =>
    rw [discover_cons, discover_cons, hfind]
    simp only [if_neg hknown, hdecl, hspace, describe_congr hfind, hdescribe]
  | case6 found identity rest hknown decl hdecl after scriptSpace hspace type hdescribe ih =>
    rw [discover_cons, discover_cons, hfind]
    simp only [if_neg hknown, hdecl, hspace, describe_congr hfind, hdescribe]
    exact ih

theorem takeMethod_congr (hfind : other.find? = registry.find?) (assembly : Value) (kind : MethodKind)
    (decl : MethodDecl) (fullName : String) :
    takeMethod other assembly kind decl fullName = takeMethod registry assembly kind decl fullName := by
  have hdiscover : discover other = discover registry := by
    funext pending found
    exact discover_congr hfind pending found
  rw [takeMethod_eq, takeMethod_eq]
  unfold takeNamed
  rw [hdiscover, signatureOf_congr hfind]

theorem considerMethods_congr (hfind : other.find? = registry.find?) (ignores : List String)
    (entries : List (Value × MethodKind × MethodDecl)) (found : Discovery) :
    considerMethods other ignores entries found = considerMethods registry ignores entries found := by
  induction entries generalizing found with
  | nil => rfl
  | cons entry rest ih =>
    obtain ⟨assembly, kind, decl⟩ := entry
    have hstep : considerMethod other ignores assembly kind decl =
        considerMethod registry ignores assembly kind decl := by
      funext found
      unfold considerMethod
      simp only [takeMethod_congr hfind]
    rw [considerMethods_cons, considerMethods_cons, hstep]
    exact congrArg (fun next => Discover.andThen _ next found) (funext fun _ => funext ih)

end Lookup

/-! ### Modules rearranged -/

namespace Descriptor

/-- A module without its types. -/
def untyped (module : Descriptor) : Descriptor :=
  { module with types := [] }

/-- Some modules with the same declarations of types as others, each in whatever module and place. -/
structure Rearranged (modules others : List Descriptor) : Prop where
  kept : others.map untyped = modules.map untyped
  types : (others.flatMap (·.types)).Perm (modules.flatMap (·.types))

end Descriptor

open Descriptor (untyped Rearranged)

section Rearranged

variable {modules others : List Descriptor}

theorem interopMethods_untyped (modules : List Descriptor) :
    interopMethods (modules.map untyped) = interopMethods modules := by
  unfold interopMethods
  rw [List.flatMap_map]
  rfl

theorem interopMethods_of_rearranged (hrearranged : Rearranged modules others) :
    interopMethods others = interopMethods modules := by
  rw [← interopMethods_untyped, hrearranged.kept, interopMethods_untyped]

theorem Registry.find?_of_rearranged (hrearranged : Rearranged modules others)
    (hdistinct : TypeDecl.KeysDistinct (modules.flatMap (·.types))) :
    (Registry.ofModules others).find? = (Registry.ofModules modules).find? := by
  funext key
  rw [Registry.find?_ofModules, Registry.find?_ofModules, hdistinct.find?_perm hrearranged.types]

/-- An inspection comes to the same result, with the same log, when distinct types are rearranged. -/
theorem Inspector.inspect_of_rearranged (inspector : Inspector) (hrearranged : Rearranged modules others)
    (hdistinct : TypeDecl.KeysDistinct (modules.flatMap (·.types))) :
    (inspector.inspect others).result = (inspector.inspect modules).result ∧
      (inspector.inspect others).log = (inspector.inspect modules).log := by
  have hrun : considerMethods (Registry.ofModules others) inspector.ignores (interopMethods others)
        (inspector.declared others) =
      considerMethods (Registry.ofModules modules) inspector.ignores (interopMethods modules)
        (inspector.declared modules) := by
    rw [interopMethods_of_rearranged hrearranged,
      considerMethods_congr (Registry.find?_of_rearranged hrearranged hdistinct),
      inspector.declared_of_distinct hdistinct,
      inspector.declared_of_distinct (hdistinct.perm hrearranged.types)]
  rw [inspect_eq, inspect_eq]
  dsimp only
  rw [hrun]
  exact ⟨rfl, rfl⟩

end Rearranged

namespace Session

variable {s other : Session} {others : List Descriptor}

/-- The entry module is told by its assembly. -/
theorem entry?_untyped (s : Session) :
    Option.map untyped (s.entry?) = Session.entry? { s with modules := s.modules.map untyped } := by
  have hnamed : (s.modules.map untyped).find? (·.assembly == .text s.entryName) =
      (s.modules.find? (·.assembly == .text s.entryName)).map untyped := List.find?_map ..
  unfold entry?
  dsimp only
  rw [hnamed, List.head?_map]
  cases s.modules.find? (·.assembly == .text s.entryName) with
  | some module => rfl
  | none =>
    rw [Option.map_none]
    dsimp only
    split <;> rfl

theorem find_of_rearranged (s : Session) (hrearranged : Rearranged s.modules others)
    (hdistinct : TypeDecl.KeysDistinct (s.modules.flatMap (·.types))) :
    ({ s with modules := others } : Session).find = s.find := by
  have hentry : Option.map untyped (Session.entry? { s with modules := others }) =
      Option.map untyped (s.entry?) := by
    rw [entry?_untyped, entry?_untyped]
    dsimp only
    rw [hrearranged.kept]
  have hrules : ({ s with modules := others } : Session).effectiveRules = s.effectiveRules := by
    have hmap := congrArg (Option.map (·.rules)) hentry
    rw [Option.map_map, Option.map_map] at hmap
    exact congrArg (fun rules : Option (List NamespaceRule) => rules.getD [] ++ s.rules) hmap
  have hlog : ({ s with modules := others } : Session).entryLog = s.entryLog := by
    have hnone := congrArg Option.isNone hentry
    rw [Option.isNone_map, Option.isNone_map] at hnone
    unfold entryLog
    rw [hnone]
  have hlength : others.length = s.modules.length := by
    have hmap := congrArg List.length hrearranged.kept
    rwa [List.length_map, List.length_map] at hmap
  have hreport : ({ s with modules := others } : Session).report = s.report := by
    funext surface
    unfold report
    dsimp only
    rw [hlength]
  unfold find
  rw [hrules, hlog, hreport]
  cases Namespace.Resolver.ofRules s.effectiveRules with
  | error e => rfl
  | ok resolver =>
    obtain ⟨hresult, hinspected⟩ :=
      Inspector.inspect_of_rearranged { resolver, ignores := s.ignores } hrearranged hdistinct
    dsimp only
    rw [hresult, hinspected]

/-- Distinct types may be rearranged within modules and among them. The crawl and the session then come
to the same result with the same log, in the same order with the same warnings or to the same error, and
the artifacts that are made and those that are written are the same. -/
theorem same_of_rearranged (hcoherent : s.Coherent) (hother : other.Coherent)
    (hsettings : other.settings = { s.settings with modules := others })
    (hrearranged : Rearranged s.modules others)
    (hdistinct : TypeDecl.KeysDistinct (s.modules.flatMap (·.types))) :
    (∀ inspector : Inspector,
        (inspector.inspect others).result = (inspector.inspect s.modules).result ∧
          (inspector.inspect others).log = (inspector.inspect s.modules).log) ∧
      other.find = s.find ∧
      other.inspect.result = s.inspect.result ∧
      other.generate.result = s.generate.result ∧
      ∀ tree paths, (other.write tree paths).result = (s.write tree paths).result := by
  have hfind : other.find = s.find := by
    rw [← find_settings, hsettings]
    exact s.find_of_rearranged hrearranged hdistinct
  have hinspect : other.inspect.result = s.inspect.result := by
    rw [hother.result_inspect, hcoherent.result_inspect, hfind]
  have hhandlers : other.settings.handlers = s.handlers := by rw [hsettings]; rfl
  have hgenerate : other.generate.result = s.generate.result := by
    rw [result_generate, result_generate, hinspect, ← hhandlers]
    rfl
  refine ⟨fun inspector => inspector.inspect_of_rearranged hrearranged hdistinct, hfind, hinspect,
    hgenerate, fun tree paths => ?_⟩
  rw [result_write, result_write, hgenerate]

end Session

/-! ### A list whose colours come first -/

/-- The colours of a list, declared by a module of their own. -/
def paletteModule : Descriptor where
  assembly := .text "Palette"

/-- The colours are declared after the nodes, or before them in the module of the colours; the list comes
out the same. -/
theorem Session.same_of_colours_moved :
    Rearranged [paletteModule, listModule]
        [{ paletteModule with types := [colourDecl] }, { listModule with types := [nodeDecl] }] ∧
      ({ modules := [paletteModule, listModule] } : Session).inspect.result = .ok listSurface ∧
      ({ modules := [{ paletteModule with types := [colourDecl] },
        { listModule with types := [nodeDecl] }] } : Session).inspect.result = .ok listSurface := by
  have hrearranged : Rearranged [paletteModule, listModule]
      [{ paletteModule with types := [colourDecl] }, { listModule with types := [nodeDecl] }] :=
    ⟨rfl, List.Perm.swap ..⟩
  have hfound : ({ modules := [paletteModule, listModule] } : Session).inspect.result =
      .ok listSurface := by
    have hrules : Namespace.Resolver.ofRules
        ({ modules := [paletteModule, listModule] } : Session).effectiveRules = .ok { rules := [] } := rfl
    rw [(coherent_of_surface_eq_none rfl).result_inspect, fst_find_of_ok hrules]
    exact inspect_listModule
  have hsame := @same_of_rearranged { modules := [paletteModule, listModule] }
    { modules := [{ paletteModule with types := [colourDecl] },
      { listModule with types := [nodeDecl] }] } _
    (coherent_of_surface_eq_none rfl) (coherent_of_surface_eq_none rfl) rfl hrearranged
    (by simp [TypeDecl.KeysDistinct, paletteModule, listModule]; decide)
  exact ⟨hrearranged, hfound, hsame.2.2.1.trans hfound⟩

end ScriptBridge
