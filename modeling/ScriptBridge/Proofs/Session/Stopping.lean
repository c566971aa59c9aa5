import ScriptBridge.Proofs.CommandLine.Outcomes
import ScriptBridge.Proofs.FileTree.Refusals

/-!
# Writing that stops

Artifacts are written up to the first that is made and cannot be written. What has been written up to there
is read afterwards, and every other file is as it was, but for one: an artifact whose directory or file
cannot be created leaves its path alone, whereas one whose text cannot be encoded leaves an empty file.
-/

namespace ScriptBridge.Session

open FileTree

/-- What a write leaves that has gone through some kinds of artifacts: those that are made are at their
paths, a file may be left empty, and no other file has changed. -/
structure Left (artifacts : Artifacts) (paths : ArtifactKind → String) (done : List ArtifactKind)
    (torn : Option ArtifactKind) (before after : FileTree) : Prop where
  written : ∀ kind ∈ done, ∀ text, artifacts.get kind = .ok text → after.read (paths kind) = .ok text
  emptied : ∀ kind ∈ torn, after.read (paths kind) = .ok ""
  failed : ∀ kind fault, artifacts.get kind = .error fault →
    after.textAt? (placeOf (paths kind)) = before.textAt? (placeOf (paths kind))
  later : ∀ kind, kind ∉ done → kind ∉ torn →
    after.textAt? (placeOf (paths kind)) = before.textAt? (placeOf (paths kind))
  others : ∀ place, (∀ kind, place ≠ placeOf (paths kind)) → after.textAt? place = before.textAt? place

section Stops

variable {artifacts : Artifacts} {paths : ArtifactKind → String} {kind : ArtifactKind}
  {kinds done : List ArtifactKind} {before middle after : FileTree} {path text : String}
  {fault : FileFault}

theorem failsBySystem_withDirectory (tree : FileTree) (hpath : Text.IsPath path) :
    FailsBySystem (withDirectory tree path).1 := by
  unfold withDirectory
  split
  · exact failsBySystem_ok ()
  · apply failsBySystem_makeDirectories
    rw [directoryOf, String.toList_ofList]
    exact (heads_splitLast path.toList).forall_mem (by decide) hpath

theorem isSystem_of_refused (hrefused : Refused before path fault after) (hpath : Text.IsPath path) :
    fault.isSystem = true := by
  cases hrefused with
  | directory hmade => exact failsBySystem_withDirectory before hpath fault (congrArg Prod.fst hmade)
  | file _ hlocate => exact failsBySystem_locate after hpath fault hlocate

/-- A write that stops has written what is made of some first kinds, and stops at an artifact that is
made. -/
theorem exists_stop_of_writeAll {log : List LogRecord}
    (hall : writeAll artifacts (kinds.map fun kind => (kind, paths kind)) before =
      (.error fault, log, after)) :
    ∃ done kind later text middle, kinds = done ++ kind :: later ∧
      Writes artifacts paths done before middle ∧ artifacts.get kind = .ok text ∧
      writeArtifact middle (paths kind) text = (.error fault, after) := by
  induction kinds generalizing before log with
  | nil => cases hall
  | cons kind kinds ih =>
    rw [List.map_cons, writeAll] at hall
    cases hget : artifacts.get kind with
    | error unmade =>
      rw [hget] at hall
      obtain ⟨done, stop, later, text, middle, rfl, hwrites, hmade, hstops⟩ := ih hall
      exact ⟨kind :: done, stop, later, text, middle, rfl, .skip hget hwrites, hmade, hstops⟩
    | ok text =>
      simp only [hget] at hall
      cases hwrite : writeArtifact before (paths kind) text with
      | mk result tree =>
        simp only [hwrite] at hall
        cases result with
        | error other =>
          cases hall
          exact ⟨[], kind, kinds, text, before, rfl, .done before, hget, hwrite⟩
        | ok _ =>
          cases hrest : writeAll artifacts (kinds.map fun kind => (kind, paths kind)) tree with
          | mk result rest =>
            obtain ⟨log, last⟩ := rest
            simp only [hrest] at hall
            cases hall
            obtain ⟨done, stop, later, other, middle, rfl, hwrites, hmade, hstops⟩ := ih hrest
            exact ⟨kind :: done, stop, later, other, middle, rfl, .write hget hwrite hwrites, hmade,
              hstops⟩

/-- What has been written is left as it is by what keeps every text but that of a file it empties. -/
theorem Writes.left {torn : Option ArtifactKind} (hwrites : Writes artifacts paths done before middle)
    (hnodup : done.Nodup) (hplaces : Function.Injective fun kind => placeOf (paths kind))
    (hkept : ∀ kind ∈ done, ∀ text, middle.read (paths kind) = .ok text →
      after.read (paths kind) = .ok text)
    (hsame : ∀ place, (∀ kind ∈ torn, place ≠ placeOf (paths kind)) →
      after.textAt? place = middle.textAt? place)
    (hemptied : ∀ kind ∈ torn, after.read (paths kind) = .ok "" ∧
      ∃ text, artifacts.get kind = .ok text) :
    Left artifacts paths done torn before after := by
  have hbefore : ∀ place, (∀ kind ∈ torn, place ≠ placeOf (paths kind)) →
      ¬ PutAt artifacts paths done place → after.textAt? place = before.textAt? place :=
    fun place hother hput => (hsame place hother).trans (hwrites.textAt? hput)
  refine ⟨fun kind hkind text hget => ?_, fun kind hkind => (hemptied kind hkind).1,
    fun kind fault hget => hbefore _ ?_ ?_, fun kind hdone hnone => hbefore _ ?_ ?_,
    fun place hplace => hbefore place (fun kind _ => hplace kind) ?_⟩
  · exact hkept kind hkind text (hwrites.read hnodup hplaces hkind hget)
  · intro other hother hsamePlace
    obtain ⟨-, text, hmade⟩ := hemptied other hother
    rw [← hplaces hsamePlace] at hmade
    cases hget.symm.trans hmade
  · rintro ⟨other, -, hsamePlace, text, hmade⟩
    rw [hplaces hsamePlace] at hmade
    cases hget.symm.trans hmade
  · intro other hother hsamePlace
    exact hnone (hplaces hsamePlace ▸ hother)
  · rintro ⟨other, hother, hsamePlace, -⟩
    exact hdone (hplaces hsamePlace ▸ hother)
  · rintro ⟨other, -, hsamePlace, -⟩
    exact hplace other hsamePlace.symm

/-- Directories that are made for a path that is refused leave all files as they are. -/
theorem Writes.left_of_grown (hwrites : Writes artifacts paths done before middle)
    (hnodup : done.Nodup) (hplaces : Function.Injective fun kind => placeOf (paths kind))
    (hgrown : Grown path middle after) : Left artifacts paths done none before after :=
  hwrites.left hnodup hplaces (fun _ _ _ hread => hgrown.read hread)
    (fun place _ => hgrown.textAt? place) (fun _ hnone => nomatch hnone)

/-- A file that is emptied leaves all others as they are. -/
theorem Writes.left_of_emptied (hwrites : Writes artifacts paths done before middle)
    (hnodup : done.Nodup) (hplaces : Function.Injective fun kind => placeOf (paths kind))
    (hkind : kind ∉ done) (hget : artifacts.get kind = .ok text)
    (hwritten : Written (paths kind) "" middle after) :
    Left artifacts paths done (some kind) before after := by
  refine hwrites.left hnodup hplaces (fun other hother there hread => ?_) (fun place hplace => ?_)
    (fun other hother => ?_)
  · refine hwritten.read (fun hsame => hkind ?_) hread
    rwa [← hplaces hsame]
  · exact hwritten.others place (hplace kind rfl)
  · cases hother
    exact ⟨hwritten.reads, text, hget⟩

/-- What is written are the artifacts of the surface that is found. -/
theorem result_write_of_finds {s : Session} {surface : Surface} (tree : FileTree)
    (paths : ArtifactKind → String) (hfinds : s.inspect.result = .ok surface) :
    (s.write tree paths).result =
      (((writeAll (Artifacts.ofSurface surface s.handlers)
          (ArtifactKind.all.map fun kind => (kind, paths kind)) tree).1.map
            fun _ => Artifacts.ofSurface surface s.handlers).mapError .file,
        (writeAll (Artifacts.ofSurface surface s.handlers)
          (ArtifactKind.all.map fun kind => (kind, paths kind)) tree).2.2) := by
  rw [result_write, result_generate, hfinds]
  dsimp only [Except.map]

end Stops

/-- A write to different places, of a session that finds a surface, goes through the artifacts in order. It
leaves each that is made at its path, up to the first that is made and cannot be written, and leaves every
other file as it was. If there is such an artifact, the write fails: by the fault of its path if its
directory or file cannot be created, which is a fault of the tree if something can have that path; or else
because its text cannot be encoded, when its file has been emptied. -/
theorem left_of_write (s : Session) (tree : FileTree) (paths : ArtifactKind → String)
    {surface : Surface} (hfinds : s.inspect.result = .ok surface)
    (hplaces : Function.Injective fun kind => placeOf (paths kind)) :
    ((s.write tree paths).result.1 = .ok (Artifacts.ofSurface surface s.handlers) ∧
        Left (Artifacts.ofSurface surface s.handlers) paths ArtifactKind.all none tree
          (s.write tree paths).result.2) ∨
      ∃ done kind later text fault, ArtifactKind.all = done ++ kind :: later ∧
        (Artifacts.ofSurface surface s.handlers).get kind = .ok text ∧
        (s.write tree paths).result.1 = .error (.file fault) ∧
        ((Left (Artifacts.ofSurface surface s.handlers) paths done none tree
              (s.write tree paths).result.2 ∧
            (Text.IsPath (paths kind) → fault.isSystem = true) ∧
            ∃ middle, Writes (Artifacts.ofSurface surface s.handlers) paths done tree middle ∧
              Refused middle (paths kind) fault (s.write tree paths).result.2) ∨
          Left (Artifacts.ofSurface surface s.handlers) paths done (some kind) tree
              (s.write tree paths).result.2 ∧
            Text.isEncodable text = false ∧ fault = .unencodableText (paths kind)) := by
  have hnodup : ArtifactKind.all.Nodup := by decide
  rw [result_write_of_finds tree paths hfinds]
  cases hall : writeAll (Artifacts.ofSurface surface s.handlers)
      (ArtifactKind.all.map fun kind => (kind, paths kind)) tree with
  | mk result rest =>
    obtain ⟨log, after⟩ := rest
    cases result with
    | ok _ =>
      have hwrites := writeAll_eq_ok_iff.1 ⟨log, hall⟩
      exact .inl ⟨rfl, hwrites.left_of_grown hnodup hplaces (.refl "" after)⟩
    | error fault =>
      obtain ⟨done, kind, later, text, middle, hkinds, hwrites, hget, hstops⟩ :=
        exists_stop_of_writeAll hall
      rw [hkinds] at hnodup
      have hdone : done.Nodup := hnodup.sublist (List.sublist_append_left _ _)
      refine .inr ⟨done, kind, later, text, fault, hkinds, hget, rfl, ?_⟩
      rcases writeArtifact_cases middle (paths kind) text with ⟨_, _, hrefused, hother⟩ |
        ⟨-, _, -, hother⟩ | ⟨hencodable, _, hwritten, hother⟩
      · cases hstops.symm.trans hother
        exact .inl ⟨hwrites.left_of_grown hdone hplaces (grown_of_refused hrefused),
          isSystem_of_refused hrefused, middle, hwrites, hrefused⟩
      · cases hstops.symm.trans hother
      · cases hstops.symm.trans hother
        have hkind : kind ∉ done := fun hmem =>
          List.disjoint_of_nodup_append hnodup hmem List.mem_cons_self
        exact .inr ⟨hwrites.left_of_emptied hdone hplaces hkind hget hwritten, hencodable, rfl⟩

/-! ### A file where a directory is wanted -/

/-- There is a file in the place of the directory that the last artifact is to be written into. -/
def millTree : FileTree := { files := [(["gen"], "grain")] }

def millPaths : ArtifactKind → String
  | .declarations => "bindings.d.ts"
  | .bindings => "bindings.g.js"
  | .serializer => "gen/SerializerContext.g.cs"

def loomSession : Session := { modules := [loomModule] }

theorem injective_millPaths : Function.Injective fun kind => placeOf (millPaths kind) := by
  intro left right hsame
  have hplaces : placeOf (millPaths left) = placeOf (millPaths right) := hsame
  revert hplaces
  cases left <;> cases right <;> decide +kernel

theorem inspect_loomSession : loomSession.inspect.result = .ok loomSurface := by
  have hrules : Namespace.Resolver.ofRules loomSession.effectiveRules = .ok { rules := [] } := rfl
  rw [(coherent_of_surface_eq_none rfl).result_inspect, fst_find_of_ok hrules]
  exact inspect_loomModule

/-- The declarations are written, the bindings cannot be made, and the serializer finds a file in its way. -/
theorem stopped_loom :
    loomSession.inspect.result = .ok loomSurface ∧
      (Function.Injective fun kind => placeOf (millPaths kind)) ∧
      ∃ fault, (loomSession.write millTree millPaths).result.1 = .error (.file fault) ∧
        fault.isSystem = true ∧
        Left (Artifacts.ofSurface loomSurface []) millPaths [.declarations, .bindings] none millTree
          (loomSession.write millTree millPaths).result.2 := by
  refine ⟨inspect_loomSession, injective_millPaths, ?_⟩
  have hfailed : (writeAll (Artifacts.ofSurface loomSurface loomSession.handlers)
      (ArtifactKind.all.map fun kind => (kind, millPaths kind)) millTree).1 =
        .error (.occupied "gen") := by
    decide +kernel
  have hresult : (loomSession.write millTree millPaths).result.1 = .error (.file (.occupied "gen")) := by
    rw [result_write_of_finds millTree millPaths inspect_loomSession, hfailed]
    rfl
  rcases left_of_write loomSession millTree millPaths inspect_loomSession injective_millPaths with
    ⟨hwritten, -⟩ | ⟨done, kind, later, text, fault, hkinds, hget, hstops, hleft⟩
  · cases hresult.symm.trans hwritten
  · cases hresult.symm.trans hstops
    rcases hleft with ⟨hleft, hsystem, middle, hwrites, hrefused⟩ | ⟨-, -, hother⟩
    · refine ⟨_, hresult, rfl, ?_⟩
      have hkinds : [.declarations, .bindings, .serializer] = done ++ kind :: later := hkinds
      generalize (loomSession.write millTree millPaths).result.2 = after at hleft hrefused ⊢
      match done with
      | [] =>
        -- The path of the declarations is free.
        have hdirectory : withDirectory millTree "bindings.d.ts" = (.ok (), millTree) := by
          decide +kernel
        have hfree : millTree.locate "bindings.d.ts" = .ok ["bindings.d.ts"] := by decide +kernel
        cases hkinds
        cases hwrites
        cases hrefused with
        | directory hmade => cases hdirectory.symm.trans hmade
        | file hmade hlocate =>
          cases hdirectory.symm.trans hmade
          cases hfree.symm.trans hlocate
      | [_] =>
        cases hkinds
        cases bindings_loomSurface.symm.trans hget
      | [_, _] =>
        cases hkinds
        exact hleft
      | _ :: _ :: _ :: rest => cases rest <;> cases hkinds
    · cases hother

/-! ### A name that is half of a pair -/

/-- Its one method has a name that ends in an unpaired surrogate. -/
def mothModule : Descriptor where
  assembly := .text "Moth"
  methods := [{ kind := "invokable", space := .text "moth", owner := .text ""
                name := .text (String.singleton (Text.ofSurrogate 0xd800)), parameters := []
                returns := .text "void" }]

def mothSurface : Surface where
  methods := [{ kind := .invokable, assembly := .text "Moth", owner := .text "", space := "moth"
                scriptSpace := "moth", name := String.singleton (Text.ofSurrogate 0xd800)
                scriptName := String.singleton (Text.ofSurrogate 0xd800), arguments := []
                returns := .primitive .void "System.Void" }]
  namespaces := ["moth"]

def mothSession : Session := { modules := [mothModule] }

theorem inspect_mothSession : mothSession.inspect.result = .ok mothSurface := by
  have hrules : Namespace.Resolver.ofRules mothSession.effectiveRules = .ok { rules := [] } := rfl
  have hvoid : Registry.resolveValue {} (.text "void") "moth" [] =
      .ok (.primitive .void "System.Void") :=
    Registry.resolveValue_eq_ok_iff.2 ⟨_, .mk "void" [] [], rfl, by cbv, by decide +kernel⟩
  have hdeclared : declareModules [mothModule] ({}, { resolver := { rules := [] } }) =
      ({}, { resolver := { rules := [] } }) := rfl
  rw [(coherent_of_surface_eq_none rfl).result_inspect, fst_find_of_ok hrules]
  exact inspect_of_takes hdeclared
    ⟨_, .next (.taken rfl rfl rfl rfl rfl rfl rfl hvoid rfl .done) .done, rfl⟩

/-- The declarations are made and their file can be created, but it is left empty. -/
theorem emptied_moth :
    mothSession.inspect.result = .ok mothSurface ∧
      (Function.Injective fun kind => placeOf (millPaths kind)) ∧
      (∃ text, (Artifacts.ofSurface mothSurface []).declarations = .ok text ∧ text ≠ "") ∧
      (mothSession.write millTree millPaths).result.1 =
        .error (.file (.unencodableText (millPaths .declarations))) ∧
      (mothSession.write millTree millPaths).result.2.read (millPaths .declarations) = .ok "" := by
  have hfailed : (writeAll (Artifacts.ofSurface mothSurface mothSession.handlers)
      (ArtifactKind.all.map fun kind => (kind, millPaths kind)) millTree).1 =
        .error (.unencodableText (millPaths .declarations)) := by
    decide +kernel
  rw [result_write_of_finds millTree millPaths inspect_mothSession, hfailed]
  refine ⟨inspect_mothSession, injective_millPaths, ⟨_, rfl, ?_⟩, rfl, ?_⟩
  · decide +kernel
  · decide +kernel

end ScriptBridge.Session
