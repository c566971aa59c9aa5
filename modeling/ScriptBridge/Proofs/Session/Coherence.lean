import ScriptBridge.Session

/-!
# What a session remembers

A session keeps the surface it has found until a module, a name to ignore or a rule is added. Whatever
it has been asked for, and whatever of that has failed, an inspection answers as that of a new session
does which has been given the same settings and asked for nothing else.
-/

namespace ScriptBridge.Session

/-- What a session may be asked for. A module is read, and artifacts are written, among the files that
are there at that moment. -/
inductive Request
  | addModule (module : Descriptor)
  | load (tree : FileTree) (path : String)
  | ignore (names : List String)
  | addRule (rule : NamespaceRule)
  | setHandler (managed : String) (handler : TypeHandler)
  | entry
  | rules
  | inspect
  | generate
  | write (tree : FileTree) (paths : ArtifactKind → String)

/-- What is answered to a request. -/
inductive Answer
  | taken
  | loaded (result : Except Failure Descriptor)
  | entry (module : Option Descriptor)
  | rules (rules : List NamespaceRule)
  | surface (result : Except Error Surface)
  | artifacts (result : Except Error Artifacts)
  | written (result : Except Failure Artifacts) (tree : FileTree)

/-- The answer to a request, and the session after it. -/
def perform (s : Session) : Request → Answer × Session
  | .addModule module => (.taken, s.addModule module)
  | .load tree path =>
    match s.load tree path with
    | .ok (module, after) => (.loaded (.ok module), after)
    | .error failure => (.loaded (.error failure), s)
  | .ignore names => (.taken, s.ignore names)
  | .addRule rule => (.taken, s.addRule rule)
  | .setHandler managed handler => (.taken, s.setHandler managed handler)
  | .entry => (.entry s.entry?, s)
  | .rules => (.rules s.effectiveRules, s)
  | .inspect => (.surface s.inspect.result, s.inspect.session)
  | .generate => (.artifacts s.generate.result, s.generate.session)
  | .write tree paths =>
    let reply := s.write tree paths
    (.written reply.result.1 reply.result.2, reply.session)

def answers (s : Session) : List Request → List Answer
  | [] => []
  | request :: rest => (s.perform request).1 :: (s.perform request).2.answers rest

/-- The session after some requests. -/
def after (s : Session) (requests : List Request) : Session :=
  requests.foldl (fun s request => (s.perform request).2) s

section Runs

variable {s t : Session} {request : Request}

/-! ### The surface that is kept -/

/-- A surface that is kept is the one that would be found. -/
def Coherent (s : Session) : Prop :=
  ∀ surface, s.surface = some surface → s.find.1 = .ok surface

theorem coherent_of_surface_eq_none (hnone : s.surface = none) : s.Coherent := by
  intro surface hsome
  rw [hnone] at hsome
  cases hsome

theorem Coherent.result_inspect (hcoherent : s.Coherent) : s.inspect.result = s.find.1 := by
  unfold inspect
  cases hkept : s.surface with
  | some surface => exact (hcoherent surface hkept).symm
  | none =>
    cases hfind : s.find with
    | mk result log => cases result <;> rfl

theorem Coherent.inspect (hcoherent : s.Coherent) : s.inspect.session.Coherent := by
  unfold Session.inspect
  cases hkept : s.surface with
  | some surface => exact hcoherent
  | none =>
    cases hfind : s.find with
    | mk result log =>
      cases result with
      | error e => exact hcoherent
      | ok surface =>
        intro other hother
        cases hother
        exact congrArg Prod.fst hfind

theorem session_generate (s : Session) : s.generate.session = s.inspect.session := by
  simp only [generate]
  split <;> rfl

theorem session_write (s : Session) (tree : FileTree) (paths : ArtifactKind → String) :
    (s.write tree paths).session = s.inspect.session := by
  rw [← session_generate]
  simp only [write]
  split <;> rfl

theorem fst_find_of_error {e : Error} (hrules : Namespace.Resolver.ofRules s.effectiveRules = .error e) :
    s.find.1 = .error e := by
  simp only [find, hrules]

/-- What is found is found by a new inspector under the rules that count. -/
theorem fst_find_of_ok {resolver : Namespace.Resolver}
    (hrules : Namespace.Resolver.ofRules s.effectiveRules = .ok resolver) :
    s.find.1 = (({ resolver, ignores := s.ignores } : Inspector).inspect s.modules).result := by
  simp only [find, hrules]
  split <;> rename_i hinspected <;> exact hinspected.symm

theorem exists_inspect_of_find {surface : Surface} (hfind : s.find.1 = .ok surface) :
    ∃ resolver, Namespace.Resolver.ofRules s.effectiveRules = .ok resolver ∧
      (({ resolver, ignores := s.ignores } : Inspector).inspect s.modules).result = .ok surface := by
  cases hrules : Namespace.Resolver.ofRules s.effectiveRules with
  | error e =>
    rw [fst_find_of_error hrules] at hfind
    cases hfind
  | ok resolver => exact ⟨resolver, rfl, (fst_find_of_ok hrules).symm.trans hfind⟩

/-- The artifacts are those of the surface that an inspection finds. -/
theorem result_generate (s : Session) :
    s.generate.result = s.inspect.result.map fun surface => Artifacts.ofSurface surface s.handlers := by
  unfold generate
  dsimp only
  cases s.inspect.result <;> rfl

/-- What is written depends on the artifacts alone. -/
theorem result_write (s : Session) (tree : FileTree) (paths : ArtifactKind → String) :
    (s.write tree paths).result =
      match s.generate.result with
      | .error e => (.error (.error e), tree)
      | .ok artifacts =>
        let (result, _, tree) := writeAll artifacts (ArtifactKind.all.map fun k => (k, paths k)) tree
        ((result.map fun _ => artifacts).mapError .file, tree) := by
  unfold write
  dsimp only
  cases s.generate.result <;> rfl

theorem perform_load_of_ok (s : Session) {tree : FileTree} {path : String} {module : Descriptor}
    (hread : readModule tree path = .ok module) :
    s.perform (.load tree path) = (.loaded (.ok module), s.addModule module) := by
  simp only [Session.perform, load, hread, bind, Except.bind, pure, Except.pure]

/-- A module that cannot be read leaves the session as it was. -/
theorem perform_load_of_error (s : Session) {tree : FileTree} {path : String} {failure : Failure}
    (hread : readModule tree path = .error failure) :
    s.perform (.load tree path) = (.loaded (.error failure), s) := by
  simp only [Session.perform, load, hread, bind, Except.bind]

/-- Each request leaves a surface that would be found, if it leaves one. -/
theorem Coherent.perform (hcoherent : s.Coherent) (request : Request) :
    (s.perform request).2.Coherent := by
  cases request with
  | addModule module => exact coherent_of_surface_eq_none rfl
  | load tree path =>
    cases hread : readModule tree path with
    | ok module =>
      rw [perform_load_of_ok s hread]
      exact coherent_of_surface_eq_none rfl
    | error failure =>
      rw [perform_load_of_error s hread]
      exact hcoherent
  | ignore names => exact coherent_of_surface_eq_none rfl
  | addRule rule => exact coherent_of_surface_eq_none rfl
  -- Handlers are not asked while the surface is found.
  | setHandler managed handler => exact hcoherent
  | entry => exact hcoherent
  | rules => exact hcoherent
  | inspect => exact hcoherent.inspect
  | generate => exact (congrArg Coherent (session_generate s)).mpr hcoherent.inspect
  | write tree paths => exact (congrArg Coherent (session_write s tree paths)).mpr hcoherent.inspect

theorem Coherent.after (hcoherent : s.Coherent) (requests : List Request) :
    (s.after requests).Coherent := by
  induction requests generalizing s with
  | nil => exact hcoherent
  | cons request requests ih => exact ih (hcoherent.perform request)

/-! ### The settings -/

/-- A session as it is before any surface has been found. -/
def settings (s : Session) : Session :=
  { s with surface := none }

theorem find_settings (s : Session) : s.settings.find = s.find := rfl

end Runs

end ScriptBridge.Session
