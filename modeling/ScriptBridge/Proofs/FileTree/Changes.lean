import ScriptBridge.Proofs.FileTree.Places
import ScriptBridge.Proofs.Text.Split

/-!
# Directories that are made, and files that are written

Making the directories of a path leaves every file as it is, and every directory that was there. Each new
one is named in the path, before its last part, and is made where there was no file. Writing a file leaves
every other file as it is.
-/

namespace ScriptBridge.FileTree

/-- The first text is what the second has before one of its slashes, or it has nothing but slashes. -/
def Heads (directory path : List Char) : Prop :=
  (∀ c ∈ directory, c = '/') ∨ directory ≠ [] ∧ ∃ rest, path = directory ++ '/' :: rest

/-- A path leads through a directory by its name. -/
def LeadsThrough (path : String) (place : Location) : Prop :=
  ∃ parts name, parts ++ [name] <+: (pathParts path).dropLast ∧ isDirectoryPart name = false ∧
    place = walk (origin path) parts ++ [name]

/-- What making directories for a path comes to, whether all of them can be made or not. -/
structure Grown (path : String) (before after : FileTree) : Prop where
  files : after.files = before.files
  kept : ∀ place, before.isDirectory place = true → after.isDirectory place = true
  fresh : ∀ place, after.isDirectory place = true → before.isDirectory place = true ∨
    before.textAt? place = none ∧ LeadsThrough path place

section Growth

variable {tree before middle after : FileTree} {path : String} {place : Location}
  {text inner outer : List Char}

/-! ### Paths of directories -/

theorem Heads.trans (hinner : Heads inner outer) (houter : Heads outer text) : Heads inner text := by
  rcases hinner with hslashes | ⟨hne, rest, rfl⟩
  · exact .inl hslashes
  · rcases houter with hslashes | ⟨-, more, rfl⟩
    · exact .inl fun c hc => hslashes c (List.mem_append_left _ hc)
    · exact .inr ⟨hne, rest ++ '/' :: more, by simp⟩

theorem heads_splitLast (text : List Char) : Heads (splitLast text).1 text := by
  obtain ⟨rest, htext⟩ := Text.throughLast_prefix '/' text
  unfold splitLast
  dsimp only
  rcases Text.throughLast_eq_nil_or '/' text with hnil | ⟨before, hbefore⟩
  · rw [hnil]
    exact .inl fun c hc => nomatch hc
  · rw [hbefore] at htext ⊢
    have htrim : Text.dropEndWhile (· == '/') (before ++ ['/']) = before.rdropWhile (· == '/') :=
      List.rdropWhile_concat_pos _ _ _ (by decide)
    rw [htrim]
    split
    · -- There is nothing but slashes up to the last one.
      rename_i hempty
      have hslashes := List.rdropWhile_eq_nil_iff.1 (List.isEmpty_iff.1 hempty)
      refine .inl fun c hc => ?_
      rcases List.mem_append.1 hc with hc | hc
      · exact beq_iff_eq.1 (hslashes c hc)
      · exact List.mem_singleton.1 hc
    · rename_i hne
      refine .inr ⟨fun hnil => hne (List.isEmpty_iff.2 hnil), ?_⟩
      have hcut : before.rdropWhile (· == '/') ++ (before.rtakeWhile (· == '/') ++ '/' :: rest) =
          text := by
        rw [← List.append_assoc, List.rdropWhile_append_rtakeWhile, ← htext, List.append_assoc,
          List.singleton_append]
      cases hslashes : before.rtakeWhile (· == '/') with
      | nil => exact ⟨rest, by rw [← hcut, hslashes, List.nil_append]⟩
      | cons c slashes =>
        have hmem : c ∈ before.rtakeWhile (· == '/') := by
          rw [hslashes]
          exact List.mem_cons_self
        have hslash := List.mem_rtakeWhile_imp hmem
        rw [hslashes, beq_iff_eq.1 hslash] at hcut
        exact ⟨_, hcut.symm⟩

theorem heads_splitDirectory (text : List Char) : Heads (splitDirectory text).1 text := by
  unfold splitDirectory
  dsimp only
  split
  · exact (heads_splitLast _).trans (heads_splitLast text)
  · exact heads_splitLast text

theorem pathParts_append_slash (inner rest : List Char) :
    pathParts (String.ofList (inner ++ '/' :: rest)) =
      pathParts (String.ofList inner) ++ pathParts (String.ofList rest) := by
  simp only [pathParts, String.toList_ofList, Text.splitAtChar_eq_splitOn,
    List.splitOn_append_cons_self, List.map_append]

theorem origin_append (hne : inner ≠ []) (rest : List Char) :
    origin (String.ofList (inner ++ rest)) = origin (String.ofList inner) := by
  obtain ⟨c, inner, rfl⟩ := List.exists_cons_of_ne_nil hne
  unfold origin
  congr 1
  simp [String.startsWith_string_iff]

/-! ### Making one directory -/

theorem isDirectory_addDirectory (tree : FileTree) (place other : Location) :
    ({ tree with directories := tree.directories ++ [place] } : FileTree).isDirectory other =
      (tree.isDirectory other || other == place) := by
  simp only [isDirectory, List.contains_append, List.contains_cons, List.contains_nil,
    Bool.or_false, Bool.or_assoc]

/-- A directory that is made is named in its path, and there was no file in its place. -/
theorem exists_of_makeDirectory (hmade : tree.makeDirectory path = .ok after) :
    ∃ parts name, parts ++ [name] <+: pathParts path ∧ isDirectoryPart name = false ∧
      tree.textAt? (walk (origin path) parts ++ [name]) = none ∧
      after = { tree with directories := tree.directories ++ [walk (origin path) parts ++ [name]] } := by
  unfold makeDirectory at hmade
  obtain ⟨_, -, hmade⟩ := Outcome.bind_eq_ok_iff.1 hmade
  obtain ⟨directory, hfollow, hmade⟩ := Outcome.bind_eq_ok_iff.1 hmade
  obtain ⟨-, rfl⟩ := follow_eq_ok_iff.1 hfollow
  dsimp only at hmade
  split at hmade
  · cases hmade
  · rename_i hnamed
    obtain ⟨found, hfound, hmade⟩ := Outcome.bind_eq_ok_iff.1 hmade
    obtain ⟨-, rfl⟩ := placeIn_eq_ok_iff.1 hfound
    split at hmade
    · cases hmade
    · rename_i hfree
      cases hmade
      rw [Bool.or_eq_true, not_or] at hfree
      refine ⟨_, _, ?_, Bool.eq_false_iff.2 hnamed, by simpa using hfree.2, rfl⟩
      have hne : ((pathParts path).reverse.dropWhile (·.isEmpty)).reverse ≠ [] := by
        intro hnil
        rw [hnil] at hnamed
        exact hnamed isDirectoryPart_empty
      rw [List.getLast?_eq_some_getLast hne, Option.getD_some, List.dropLast_append_getLast]
      exact List.rdropWhile_prefix _ _

theorem Grown.refl (path : String) (tree : FileTree) : Grown path tree tree :=
  ⟨rfl, fun _ => id, fun _ => .inl⟩

theorem Grown.trans (hfirst : Grown path before middle) (hsecond : Grown path middle after) :
    Grown path before after where
  files := hsecond.files.trans hfirst.files
  kept := fun place hplace => hsecond.kept place (hfirst.kept place hplace)
  fresh := by
    intro place hplace
    rcases hsecond.fresh place hplace with hmiddle | ⟨hfree, hleads⟩
    · exact hfirst.fresh place hmiddle
    · refine .inr ⟨?_, hleads⟩
      rwa [textAt?, hfirst.files] at hfree

/-- A name in the path of a directory is a name before the last part of a path that it heads. -/
theorem leadsThrough_of_heads {parts : List String} {name : String} (hheads : Heads inner text)
    (hparts : parts ++ [name] <+: pathParts (String.ofList inner))
    (hnamed : isDirectoryPart name = false) :
    LeadsThrough (String.ofList text) (walk (origin (String.ofList inner)) parts ++ [name]) := by
  rcases hheads with hslashes | ⟨hne, rest, rfl⟩
  · -- Slashes have no name between them.
    have hname : name ∈ pathParts (String.ofList inner) := hparts.subset (by simp)
    rw [pathParts, String.toList_ofList] at hname
    obtain ⟨chars, hchars, rfl⟩ := List.mem_map.1 hname
    rw [Text.eq_nil_of_mem_splitAtChar hslashes chars hchars] at hnamed
    cases hnamed.symm.trans isDirectoryPart_empty
  · refine ⟨parts, name, ?_, hnamed, by rw [origin_append hne]⟩
    rw [pathParts_append_slash, List.dropLast_append_of_ne_nil (pathParts_ne_nil _)]
    exact hparts.trans (List.prefix_append _ _)

theorem grown_of_makeDirectory (hheads : Heads inner text)
    (hmade : tree.makeDirectory (String.ofList inner) = .ok after) :
    Grown (String.ofList text) tree after := by
  obtain ⟨parts, name, hparts, hnamed, hfree, rfl⟩ := exists_of_makeDirectory hmade
  refine ⟨rfl, fun place hplace => ?_, fun place hplace => ?_⟩
  · rw [isDirectory_addDirectory, hplace, Bool.true_or]
  · rw [isDirectory_addDirectory, Bool.or_eq_true, beq_iff_eq] at hplace
    rcases hplace with hthere | rfl
    · exact .inl hthere
    · exact .inr ⟨hfree, leadsThrough_of_heads hheads hparts hnamed⟩

theorem grown_provideDirectory (tree : FileTree) (hheads : Heads inner text) :
    Grown (String.ofList text) tree (tree.provideDirectory (String.ofList inner)).2 := by
  unfold provideDirectory
  cases hmade : tree.makeDirectory (String.ofList inner) with
  | ok after => exact grown_of_makeDirectory hheads hmade
  | error fault => exact .refl _ tree

/-! ### Making a directory and those around it -/

theorem grown_last {tail : List Char} (tree : FileTree) (hheads : Heads inner text) :
    Grown (String.ofList text) tree (makeDirectories.last inner tail tree).2 := by
  unfold makeDirectories.last
  split
  · exact .refl _ tree
  · exact grown_provideDirectory tree hheads

/-- What has been made around a directory has been made for any path that the directory heads. -/
theorem grown_around {head tail : List Char} {result : Except FileFault Unit}
    (hsplit : splitDirectory inner = (head, tail)) (hheads : Heads inner text)
    (hmade : tree.makeDirectories head = (result, middle))
    (hgrown : Heads head text → Grown (String.ofList text) tree (tree.makeDirectories head).2) :
    Grown (String.ofList text) tree middle := by
  have hhead : Heads head inner := by simpa [hsplit] using heads_splitDirectory inner
  simpa [hmade] using hgrown (hhead.trans hheads)

theorem grown_makeDirectories (tree : FileTree) (hheads : Heads inner text) :
    Grown (String.ofList text) tree (tree.makeDirectories inner).2 := by
  induction inner using makeDirectories.induct tree with
  | case1 inner head tail hsplit hstops =>
    rw [makeDirectories, hsplit]
    simp only [hstops, dif_pos]
    exact grown_provideDirectory tree hheads
  | case2 inner head tail hsplit hgoes middle hmade ih
  | case3 inner head tail hsplit hgoes path middle hmade ih =>
    rw [makeDirectories, hsplit]
    simp only [hgoes, hmade]
    exact (grown_around hsplit hheads hmade ih).trans (grown_last middle hheads)
  | case4 inner head tail hsplit hgoes fault middle hfault hmade ih =>
    rw [makeDirectories, hsplit]
    simp only [hgoes, hmade]
    exact grown_around hsplit hheads hmade ih

end Growth

/-! ### Files -/

/-- What writing a text to a path comes to, the directories of the path made before. -/
structure Written (path text : String) (before after : FileTree) : Prop where
  reads : after.read path = .ok text
  others : ∀ place, place ≠ placeOf path → after.textAt? place = before.textAt? place
  kept : ∀ place, before.isDirectory place = true → after.isDirectory place = true
  fresh : ∀ place, after.isDirectory place = true → before.isDirectory place = true ∨
    before.textAt? place = none ∧ LeadsThrough path place

section Writing

variable {tree before middle after : FileTree} {path other text there : String} {place : Location}

theorem lookup_putFile_self (files : List (Location × String)) (place : Location) (text : String) :
    (putFile files place text).lookup place = some text := by
  unfold putFile
  split
  · rename_i hthere
    induction files with
    | nil => cases hthere
    | cons entry files ih =>
      obtain ⟨key, there⟩ := entry
      by_cases hkey : key = place
      · simp [hkey]
      · have hrest : files.any (·.1 == place) = true := by simpa [hkey] using hthere
        simpa [hkey, List.lookup_cons, beq_eq_false_iff_ne.2 (Ne.symm hkey)] using ih hrest
  · rename_i hnone
    have hkeys : files.lookup place = none := by
      rw [List.lookup_eq_none_iff]
      intro entry hentry
      rw [bne_iff_ne]
      rintro rfl
      exact hnone (List.any_eq_true.2 ⟨entry, hentry, beq_self_eq_true _⟩)
    rw [List.lookup_append, hkeys, Option.none_or, List.lookup_cons_self]

theorem lookup_putFile_of_ne {place other : Location} (hne : other ≠ place)
    (files : List (Location × String)) (text : String) :
    (putFile files place text).lookup other = files.lookup other := by
  have hplace : (other == place) = false := beq_eq_false_iff_ne.2 hne
  unfold putFile
  split
  · rename_i hthere
    clear hthere
    induction files with
    | nil => rfl
    | cons entry files ih =>
      obtain ⟨key, there⟩ := entry
      by_cases hkey : key = place
      · simpa [hkey, List.lookup_cons, hplace] using ih
      · simp only [List.map_cons, beq_eq_false_iff_ne.2 hkey, Bool.false_eq_true, if_false,
          List.lookup_cons, ih]
  · simp [List.lookup_append, List.lookup_cons, hplace]

theorem write_eq_ok_iff :
    tree.write path text = .ok after ↔
      tree.locate path = .ok (placeOf path) ∧
        after = { tree with files := putFile tree.files (placeOf path) text } := by
  unfold write
  rw [Outcome.bind_eq_ok_iff]
  constructor
  · rintro ⟨place, hlocate, hafter⟩
    obtain ⟨-, -, rfl⟩ := locate_eq_ok_iff.1 hlocate
    cases hafter
    exact ⟨hlocate, rfl⟩
  · rintro ⟨hlocate, rfl⟩
    exact ⟨_, hlocate, rfl⟩

theorem write_eq_error_iff {fault : FileFault} :
    tree.write path text = .error fault ↔ tree.locate path = .error fault := by
  unfold write
  rw [Outcome.bind_eq_error_iff, or_iff_left]
  rintro ⟨place, -, hplaced⟩
  cases hplaced

/-- A text that is to be written finds its path refused, or is written, or cannot be encoded and leaves the
file empty. -/
theorem writeEncoded_cases (tree : FileTree) (path text : String) :
    (∃ fault, tree.locate path = .error fault ∧ tree.writeEncoded path text = (.error fault, tree)) ∨
      (Text.isEncodable text = true ∧ ∃ after, tree.write path text = .ok after ∧
        tree.writeEncoded path text = (.ok (), after)) ∨
      (Text.isEncodable text = false ∧ ∃ after, tree.write path "" = .ok after ∧
        tree.writeEncoded path text = (.error (.unencodableText path), after)) := by
  unfold writeEncoded
  cases hwrite : tree.write path (if Text.isEncodable text then text else "") with
  | error fault => exact .inl ⟨fault, write_eq_error_iff.1 hwrite, rfl⟩
  | ok after =>
    cases hencodable : Text.isEncodable text with
    | true =>
      rw [hencodable] at hwrite
      exact .inr (.inl ⟨rfl, after, hwrite, rfl⟩)
    | false =>
      rw [hencodable] at hwrite
      exact .inr (.inr ⟨rfl, after, hwrite, rfl⟩)

/-- A file is read as before if its text is as before, no directory has been lost, and no directory has
been made in the place of a file. -/
theorem read_mono (hkept : ∀ place, before.isDirectory place = true → after.isDirectory place = true)
    (hfresh : ∀ place, after.isDirectory place = true →
      before.isDirectory place = true ∨ before.textAt? place = none ∧ LeadsThrough path place)
    (hsame : after.textAt? (placeOf other) = before.textAt? (placeOf other))
    (hread : before.read other = .ok there) : after.read other = .ok there := by
  obtain ⟨hlocate, htext⟩ := read_eq_ok_iff.1 hread
  obtain ⟨hreaches, hfree, -⟩ := locate_eq_ok_iff.1 hlocate
  have hstill : after.isDirectory (placeOf other) = false := by
    refine Bool.eq_false_iff.2 fun hmade => ?_
    rcases hfresh _ hmade with hthere | ⟨hnone, -⟩
    · rw [hfree] at hthere
      cases hthere
    · rw [htext] at hnone
      cases hnone
  exact read_eq_ok_iff.2
    ⟨locate_eq_ok_iff.2 ⟨hreaches.mono hkept, hstill, rfl⟩, hsame.trans htext⟩

theorem Grown.written (hgrown : Grown path before middle) (hwrite : middle.write path text = .ok after) :
    Written path text before after := by
  obtain ⟨hlocate, rfl⟩ := write_eq_ok_iff.1 hwrite
  obtain ⟨hreaches, hfree, -⟩ := locate_eq_ok_iff.1 hlocate
  have hreached : FileTree.Reaches
      { middle with files := putFile middle.files (placeOf path) text } path :=
    hreaches.mono fun _ hplace => hplace
  refine ⟨?_, fun place hplace => ?_, hgrown.kept, hgrown.fresh⟩
  · exact read_eq_ok_iff.2 ⟨locate_eq_ok_iff.2 ⟨hreached, hfree, rfl⟩, lookup_putFile_self _ _ _⟩
  · calc (putFile middle.files (placeOf path) text).lookup place
        = middle.files.lookup place := lookup_putFile_of_ne hplace _ _
      _ = before.files.lookup place := by rw [hgrown.files]

/-- What is read at another place is read after writing. -/
theorem Written.read (hwritten : Written path text before after)
    (hplace : placeOf other ≠ placeOf path) (hread : before.read other = .ok there) :
    after.read other = .ok there :=
  read_mono hwritten.kept hwritten.fresh (hwritten.others _ hplace) hread

/-- Where a path leads to a file, it leads through directories. -/
theorem isDirectory_of_leadsThrough (hread : tree.read path = .ok text)
    (hleads : LeadsThrough path place) : tree.isDirectory place = true := by
  obtain ⟨hreaches, -, -⟩ := locate_eq_ok_iff.1 (read_eq_ok_iff.1 hread).1
  obtain ⟨parts, name, ⟨rest, hparts⟩, hnamed, rfl⟩ := hleads
  have hpasses := hreaches.passes
  rw [← hparts, List.append_assoc, passes_append] at hpasses
  obtain ⟨-, hname, -⟩ := hpasses
  simpa only [step_of_named _ hnamed] using (hname hnamed).2

end Writing

end ScriptBridge.FileTree
