import ScriptBridge.Proofs.FileTree.Changes
import ScriptBridge.Session

/-!
# What writing artifacts leaves

Each artifact that is made is read at its path afterwards, if no other artifact is written to the same
place. At the path of an artifact that is not made, and at any other place, everything is as it was.
-/

namespace ScriptBridge.Session

open FileTree

/-- The artifacts of some kinds that are made are written one after another, each with its directory. -/
inductive Writes (artifacts : Artifacts) (paths : ArtifactKind → String) :
    List ArtifactKind → FileTree → FileTree → Prop
  | done (tree : FileTree) : Writes artifacts paths [] tree tree
  | skip {kind : ArtifactKind} {rest : List ArtifactKind} {before after : FileTree} {fault : EmitFault} :
    artifacts.get kind = .error fault → Writes artifacts paths rest before after →
    Writes artifacts paths (kind :: rest) before after
  | write {kind : ArtifactKind} {rest : List ArtifactKind} {before middle after : FileTree}
    {text : String} :
    artifacts.get kind = .ok text → writeArtifact before (paths kind) text = (.ok (), middle) →
    Writes artifacts paths rest middle after → Writes artifacts paths (kind :: rest) before after

/-- Whether the text of an artifact is put at a place. -/
def PutAt (artifacts : Artifacts) (paths : ArtifactKind → String) (kinds : List ArtifactKind)
    (place : Location) : Prop :=
  ∃ kind ∈ kinds, placeOf (paths kind) = place ∧ ∃ text, artifacts.get kind = .ok text

section Writing

variable {artifacts : Artifacts} {paths : ArtifactKind → String} {kind : ArtifactKind}
  {kinds : List ArtifactKind} {before after : FileTree} {path text : String} {place : Location}

/-- The tree with the directory of a path made, if the path names one. -/
def withDirectory (tree : FileTree) (path : String) : Except FileFault Unit × FileTree :=
  if (directoryOf path).isEmpty then (.ok (), tree) else tree.makeDirectories (directoryOf path).toList

theorem grown_withDirectory (tree : FileTree) (path : String) :
    Grown path tree (withDirectory tree path).2 := by
  unfold withDirectory
  split
  · exact .refl path tree
  · have hgrown := grown_makeDirectories tree (heads_splitLast path.toList)
    rwa [String.ofList_toList, ← String.toList_ofList (l := (splitLast path.toList).1)] at hgrown

/-- Nothing can be written to a path, by a fault of making its directory or else of creating the file. Some
directories may have been made by then. -/
inductive Refused (before : FileTree) (path : String) (fault : FileFault) (after : FileTree) : Prop
  | directory : withDirectory before path = (.error fault, after) → Refused before path fault after
  | file : withDirectory before path = (.ok (), after) → after.locate path = .error fault →
    Refused before path fault after

theorem grown_of_refused {fault : FileFault} (hrefused : Refused before path fault after) :
    Grown path before after := by
  have hgrown := grown_withDirectory before path
  cases hrefused with
  | directory hmade | file hmade _ => rwa [hmade] at hgrown

/-- The path of a text is refused, or the text is written to it, or cannot be encoded and leaves it empty. -/
theorem writeArtifact_cases (before : FileTree) (path text : String) :
    (∃ fault after, Refused before path fault after ∧
        writeArtifact before path text = (.error fault, after)) ∨
      (Text.isEncodable text = true ∧ ∃ after, Written path text before after ∧
        writeArtifact before path text = (.ok (), after)) ∨
      (Text.isEncodable text = false ∧ ∃ after, Written path "" before after ∧
        writeArtifact before path text = (.error (.unencodableText path), after)) := by
  have hgrown := grown_withDirectory before path
  unfold writeArtifact
  dsimp only
  split
  · rename_i fault middle hmade
    exact .inl ⟨fault, middle, .directory hmade, rfl⟩
  · rename_i middle hmade
    rw [withDirectory, hmade] at hgrown
    rcases writeEncoded_cases middle path text with ⟨fault, hlocate, hfails⟩ |
      ⟨hencodable, after, hwrite, hwritten⟩ | ⟨hencodable, after, hwrite, hwritten⟩
    · exact .inl ⟨fault, middle, .file hmade hlocate, hfails⟩
    · exact .inr (.inl ⟨hencodable, after, hgrown.written hwrite, hwritten⟩)
    · exact .inr (.inr ⟨hencodable, after, hgrown.written hwrite, hwritten⟩)

theorem written_of_writeArtifact (hwrite : writeArtifact before path text = (.ok (), after)) :
    Written path text before after := by
  rcases writeArtifact_cases before path text with ⟨_, _, -, hother⟩ | ⟨-, _, hwritten, hother⟩ |
    ⟨-, _, -, hother⟩
  · cases hwrite.symm.trans hother
  · cases hwrite.symm.trans hother
    exact hwritten
  · cases hwrite.symm.trans hother

theorem writes_cons_of_error {fault : EmitFault} (hget : artifacts.get kind = .error fault) :
    Writes artifacts paths (kind :: kinds) before after ↔ Writes artifacts paths kinds before after := by
  constructor
  · intro hwrites
    cases hwrites with
    | skip _ hrest => exact hrest
    | write hmade => cases hget.symm.trans hmade
  · exact .skip hget

theorem writes_cons_of_ok (hget : artifacts.get kind = .ok text) :
    Writes artifacts paths (kind :: kinds) before after ↔
      ∃ middle, writeArtifact before (paths kind) text = (.ok (), middle) ∧
        Writes artifacts paths kinds middle after := by
  constructor
  · intro hwrites
    cases hwrites with
    | skip hfails => cases hget.symm.trans hfails
    | write hmade hwrite hrest =>
      cases hget.symm.trans hmade
      exact ⟨_, hwrite, hrest⟩
  · rintro ⟨middle, hwrite, hrest⟩
    exact .write hget hwrite hrest

/-- All that is made is written exactly if nothing stops at a fault. -/
theorem writeAll_eq_ok_iff :
    (∃ log, writeAll artifacts (kinds.map fun kind => (kind, paths kind)) before = (.ok (), log, after)) ↔
      Writes artifacts paths kinds before after := by
  induction kinds generalizing before with
  | nil =>
    constructor
    · rintro ⟨log, hall⟩
      cases hall
      exact .done _
    · rintro ⟨⟩
      exact ⟨[], rfl⟩
  | cons kind kinds ih =>
    rw [List.map_cons, writeAll]
    cases hget : artifacts.get kind with
    | error fault => rw [writes_cons_of_error hget, ← ih]
    | ok text =>
      rw [writes_cons_of_ok hget]
      simp only [← ih]
      cases hwrite : writeArtifact before (paths kind) text with
      | mk result middle =>
        cases result with
        | error fault => simp
        | ok done =>
          dsimp only
          constructor
          · rintro ⟨log, hall⟩
            simp only [Prod.mk.injEq] at hall
            exact ⟨middle, rfl, _, Prod.ext hall.1 (Prod.ext rfl hall.2.2)⟩
          · rintro ⟨_, hmiddle, log, hall⟩
            cases hmiddle
            exact ⟨_, by rw [hall]⟩

/-! ### What a run of writes leaves -/

theorem Writes.isDirectory (hwrites : Writes artifacts paths kinds before after)
    (hplace : before.isDirectory place = true) : after.isDirectory place = true := by
  induction hwrites with
  | done => exact hplace
  | skip _ _ ih => exact ih hplace
  | write _ hwrite _ ih => exact ih ((written_of_writeArtifact hwrite).kept place hplace)

theorem PutAt.cons (hput : PutAt artifacts paths kinds place) :
    PutAt artifacts paths (kind :: kinds) place := by
  obtain ⟨other, hother, hput⟩ := hput
  exact ⟨other, List.mem_cons_of_mem _ hother, hput⟩

theorem Writes.textAt? (hwrites : Writes artifacts paths kinds before after)
    (hplace : ¬ PutAt artifacts paths kinds place) : after.textAt? place = before.textAt? place := by
  induction hwrites with
  | done => rfl
  | skip _ _ ih => exact ih (mt PutAt.cons hplace)
  | @write kind _ before middle _ _ hget hwrite _ ih =>
    have hne : place ≠ placeOf (paths kind) := by
      rintro rfl
      exact hplace ⟨kind, List.mem_cons_self, rfl, _, hget⟩
    calc _ = middle.textAt? place := ih (mt PutAt.cons hplace)
      _ = before.textAt? place := (written_of_writeArtifact hwrite).others place hne

/-- What is read elsewhere is read afterwards. -/
theorem Writes.read_of_not_putAt (hwrites : Writes artifacts paths kinds before after)
    (hplace : ¬ PutAt artifacts paths kinds (placeOf path)) (hread : before.read path = .ok text) :
    after.read path = .ok text := by
  induction hwrites with
  | done => exact hread
  | skip _ _ ih => exact ih (mt PutAt.cons hplace) hread
  | @write kind _ _ _ _ _ hget hwrite _ ih =>
    refine ih (mt PutAt.cons hplace) ?_
    refine (written_of_writeArtifact hwrite).read (fun heq => ?_) hread
    exact hplace ⟨kind, List.mem_cons_self, heq.symm, _, hget⟩

/-- An artifact that is made is read at its path, where its place is its own. -/
theorem Writes.read (hwrites : Writes artifacts paths kinds before after) (hnodup : kinds.Nodup)
    (hplaces : Function.Injective fun kind => placeOf (paths kind)) (hkind : kind ∈ kinds)
    (hget : artifacts.get kind = .ok text) : after.read (paths kind) = .ok text := by
  induction hwrites with
  | done => cases hkind
  | skip hfails _ ih =>
    obtain ⟨-, hrest⟩ := List.nodup_cons.1 hnodup
    rcases List.mem_cons.1 hkind with rfl | hkind
    · cases hfails.symm.trans hget
    · exact ih hrest hkind
  | write hmade hwrite hwrites ih =>
    obtain ⟨hfirst, hrest⟩ := List.nodup_cons.1 hnodup
    rcases List.mem_cons.1 hkind with rfl | hkind
    · cases hmade.symm.trans hget
      refine hwrites.read_of_not_putAt ?_ (written_of_writeArtifact hwrite).reads
      rintro ⟨other, hother, hsame, -⟩
      rw [hplaces hsame] at hother
      exact hfirst hother
    · exact ih hrest hkind

/-- A directory that is made is one that the path of an artifact leads through. -/
theorem Writes.leadsThrough (hwrites : Writes artifacts paths kinds before after)
    (hplace : after.isDirectory place = true) :
    before.isDirectory place = true ∨ ∃ kind ∈ kinds, LeadsThrough (paths kind) place := by
  induction hwrites with
  | done => exact .inl hplace
  | skip _ _ ih =>
    exact (ih hplace).imp_right fun ⟨kind, hkind, hleads⟩ =>
      ⟨kind, List.mem_cons_of_mem _ hkind, hleads⟩
  | write _ hwrite _ ih =>
    rcases ih hplace with hmiddle | ⟨kind, hkind, hleads⟩
    · exact ((written_of_writeArtifact hwrite).fresh place hmiddle).imp_right fun ⟨_, hleads⟩ =>
        ⟨_, List.mem_cons_self, hleads⟩
    · exact .inr ⟨kind, List.mem_cons_of_mem _ hkind, hleads⟩

end Writing

end ScriptBridge.Session
