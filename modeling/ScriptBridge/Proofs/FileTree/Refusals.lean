import ScriptBridge.Proofs.FileTree.Changes

/-!
# Why a tree refuses a path

A path that something can have is only refused for what there is in the tree, or for its length.
-/

namespace ScriptBridge

/-- A fault of the tree, as against one of a path that nothing can have, or of a text. -/
def FileFault.isSystem : FileFault → Bool
  | .unusable _ | .unencodablePath _ | .unencodableText _ => false
  | .notFound _ | .occupied _ | .notDirectory _ | .isDirectory _ | .nameTooLong _ => true

/-- Whether a character can be in a path: it is not null, and no surrogate that stands for no byte. -/
def Text.isPathChar (c : Char) : Bool :=
  c != '\x00' && !(isUnpaired c && !isEscapedByte c)

/-- Something can have the path. -/
def Text.IsPath (path : String) : Prop :=
  ∀ c ∈ path.toList, isPathChar c = true

instance : DecidablePred Text.IsPath := fun path =>
  inferInstanceAs (Decidable (∀ c ∈ path.toList, Text.isPathChar c = true))

namespace FileTree

/-- An operation fails by a fault of the tree if it fails. -/
def FailsBySystem {α : Type} (x : Except FileFault α) : Prop :=
  ∀ fault, x = .error fault → fault.isSystem = true

section Faults

variable {α β : Type} {tree : FileTree} {path : String} {text inner : List Char}

theorem failsBySystem_ok (a : α) : FailsBySystem (.ok a : Except FileFault α) := by
  intro fault heq
  cases heq

theorem failsBySystem_error {fault : FileFault} (hsystem : fault.isSystem = true) :
    FailsBySystem (.error fault : Except FileFault α) := by
  intro other heq
  cases heq
  exact hsystem

theorem FailsBySystem.bind {x : Except FileFault α} {f : α → Except FileFault β}
    (hx : FailsBySystem x) (hf : ∀ a, FailsBySystem (f a)) : FailsBySystem (x >>= f) := by
  intro fault heq
  rcases Outcome.bind_eq_error_iff.1 heq with heq | ⟨a, -, heq⟩
  · exact hx fault heq
  · exact hf a fault heq

theorem failsBySystem_checkPath (hpath : Text.IsPath path) : FailsBySystem (checkPath path) := by
  have htext : Text.isPathText path = true := by
    rw [Text.isPathText, Bool.not_eq_true', List.any_eq_false]
    intro c hc
    have hchar := hpath c hc
    rw [Text.isPathChar, Bool.and_eq_true, Bool.not_eq_true'] at hchar
    rw [hchar.2]
    exact Bool.false_ne_true
  have hnull : path.toList.contains '\x00' = false := by
    rw [List.contains_eq_mem, decide_eq_false_iff_not]
    intro hmem
    have hchar := hpath _ hmem
    rw [Text.isPathChar, Bool.and_eq_true] at hchar
    cases hchar.1
  unfold checkPath
  simp only [htext, hnull, Bool.not_true, Bool.false_eq_true, if_false]
  split
  · exact failsBySystem_error rfl
  · split
    · exact failsBySystem_error rfl
    · exact failsBySystem_ok ()

theorem failsBySystem_placeIn (path : String) (directory : Location) (name : String) :
    FailsBySystem (placeIn path directory name) := by
  unfold placeIn
  split
  · exact failsBySystem_error rfl
  · exact failsBySystem_ok _

theorem failsBySystem_follow (tree : FileTree) (path : String) (place : Location)
    (parts : List String) : FailsBySystem (tree.follow path place parts) := by
  induction parts generalizing place with
  | nil => exact failsBySystem_ok place
  | cons part parts ih =>
    rw [follow]
    split
    · exact ih place
    · split
      · exact ih (parent place)
      · have hplace := failsBySystem_placeIn path place part
        split
        · rename_i fault heq
          exact failsBySystem_error (hplace fault heq)
        · rename_i next _
          split
          · exact ih next
          · split
            · exact failsBySystem_error rfl
            · exact failsBySystem_error rfl

theorem failsBySystem_locate (tree : FileTree) (hpath : Text.IsPath path) :
    FailsBySystem (tree.locate path) := by
  unfold locate enter
  refine ((failsBySystem_checkPath hpath).bind fun _ => ?_).bind fun entered => ?_
  · exact (failsBySystem_follow tree path _ _).bind fun _ => failsBySystem_ok _
  · dsimp only
    split
    · exact failsBySystem_error rfl
    · refine (failsBySystem_placeIn path _ _).bind fun place => ?_
      split
      · exact failsBySystem_error rfl
      · exact failsBySystem_ok place

theorem failsBySystem_provideDirectory (tree : FileTree) (hpath : Text.IsPath path) :
    FailsBySystem (tree.provideDirectory path).1 := by
  have hmade : FailsBySystem (tree.makeDirectory path) := by
    unfold makeDirectory
    refine (failsBySystem_checkPath hpath).bind fun _ => ?_
    refine (failsBySystem_follow tree path _ _).bind fun _ => ?_
    dsimp only
    split
    · exact failsBySystem_error rfl
    · refine (failsBySystem_placeIn path _ _).bind fun place => ?_
      split
      · exact failsBySystem_error rfl
      · exact failsBySystem_ok _
  unfold provideDirectory
  split
  · exact failsBySystem_ok ()
  · rename_i fault heq
    dsimp only
    split
    · exact failsBySystem_ok ()
    · exact failsBySystem_error (hmade fault heq)

/-- What heads a path has no characters but those of the path, slashes apart. -/
theorem Heads.forall_mem (hheads : Heads inner text) {p : Char → Bool} (hslash : p '/' = true)
    (hall : ∀ c ∈ text, p c = true) : ∀ c ∈ inner, p c = true := by
  intro c hc
  rcases hheads with hslashes | ⟨-, rest, rfl⟩
  · rwa [hslashes c hc]
  · exact hall c (List.mem_append_left _ hc)

theorem failsBySystem_makeDirectories (tree : FileTree) (hpath : ∀ c ∈ text, Text.isPathChar c = true) :
    FailsBySystem (tree.makeDirectories text).1 := by
  have hprovided : ∀ (tree : FileTree) (path : List Char), (∀ c ∈ path, Text.isPathChar c = true) →
      FailsBySystem (tree.provideDirectory (String.ofList path)).1 := fun tree path hpath =>
    failsBySystem_provideDirectory tree (by rwa [Text.IsPath, String.toList_ofList])
  have hlast : ∀ (path tail : List Char) (tree : FileTree), (∀ c ∈ path, Text.isPathChar c = true) →
      FailsBySystem (makeDirectories.last path tail tree).1 := by
    intro path tail tree hpath
    unfold makeDirectories.last
    split
    · exact failsBySystem_ok ()
    · exact hprovided tree path hpath
  induction text using makeDirectories.induct tree with
  | case1 path head tail hsplit hstops =>
    rw [makeDirectories, hsplit]
    simp only [hstops, dif_pos]
    exact hprovided tree path hpath
  | case2 path head tail hsplit hgoes middle hmade ih
  | case3 path head tail hsplit hgoes _ middle hmade ih =>
    rw [makeDirectories, hsplit]
    simp only [hgoes, hmade]
    exact hlast path tail middle hpath
  | case4 path head tail hsplit hgoes fault middle hfault hmade ih =>
    rw [makeDirectories, hsplit]
    simp only [hgoes, hmade]
    have hhead : Heads head path := by simpa [hsplit] using heads_splitDirectory path
    rw [hmade] at ih
    exact ih (hhead.forall_mem (by decide) hpath)

end Faults

section Growth

variable {before after : FileTree} {path other text : String}

theorem Grown.textAt? (hgrown : Grown path before after) (place : Location) :
    after.textAt? place = before.textAt? place := by
  rw [FileTree.textAt?, hgrown.files, FileTree.textAt?]

/-- What is read is read when directories have been made. -/
theorem Grown.read (hgrown : Grown path before after) (hread : before.read other = .ok text) :
    after.read other = .ok text :=
  read_mono hgrown.kept hgrown.fresh (hgrown.textAt? _) hread

end Growth

end FileTree

end ScriptBridge
