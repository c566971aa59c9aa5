import ScriptBridge.Proofs.Artifact.EnumerationReading

/-!
# Texts between double quotes

A text is written with a backslash before each backslash and each double quote in it, and before nothing
else. A reader for which a backslash makes the next character literal ends at the last quote, and has read
the text. So no name of an item breaks out of a lookup object, whatever characters it has.
-/

namespace ScriptBridge

namespace Script

/-! ### What is written -/

/-- A text with each occurrence of a character replaced. -/
def replaced (old : Char) (new text : List Char) : List Char :=
  text.flatMap fun c => if c == old then new else [c]

/-- The characters in a literal that are literal because of a backslash before them. -/
def escaped : List Char → List Char
  | [] => []
  | ['\\'] => []
  | '\\' :: c :: rest => c :: escaped rest
  | _ :: rest => escaped rest

/-- Backslashes are doubled before a backslash is put before each quote, so that those are not doubled. -/
theorem literalChars_eq_replaced (text : List Char) :
    text.flatMap Naming.literalChar =
      replaced '"' ['\\', '"'] (replaced '\\' ['\\', '\\'] text) := by
  rw [replaced, replaced, List.flatMap_assoc]
  congr 1
  funext c
  by_cases hbackslash : c = '\\'
  · subst hbackslash
    rfl
  · by_cases hquote : c = '"'
    · subst hquote
      rfl
    · simp [Naming.literalChar, hbackslash, hquote]

theorem escaped_literalChars (text : List Char) :
    escaped (text.flatMap Naming.literalChar) = text.filter fun c => c == '\\' || c == '"' := by
  induction text with
  | nil => rfl
  | cons c text ih =>
    rw [List.flatMap_cons]
    by_cases hbackslash : c = '\\'
    · subst hbackslash
      exact congrArg ('\\' :: ·) ih
    by_cases hquote : c = '"'
    · subst hquote
      exact congrArg ('"' :: ·) ih
    · have hplain : Naming.literalChar c = [c] := by
        simp [Naming.literalChar, hbackslash, hquote]
      rw [hplain, List.singleton_append, escaped, ih]
      · simp [hbackslash, hquote]
      all_goals simp [hbackslash]

/-! ### What is read -/

/-- A literal that is closed is read alike whatever follows it. -/
theorem readQuoted_append {text content after : List Char}
    (hread : readQuoted text = some (content, after)) (more : List Char) :
    readQuoted (text ++ more) = some (content, after ++ more) := by
  induction text using readQuoted.induct generalizing content with
  | case1 => cases hread
  | case2 rest =>
    cases hread
    rfl
  | case3 => cases hread
  | case4 c rest ih =>
    obtain ⟨⟨inner, _⟩, hrest, heq⟩ := Option.map_eq_some_iff.1 hread
    cases heq
    exact congrArg (Option.map _) (ih hrest)
  | case5 c rest hquote hlast hescape ih =>
    rw [readQuoted] at hread
    · obtain ⟨⟨inner, _⟩, hrest, heq⟩ := Option.map_eq_some_iff.1 hread
      cases heq
      rw [List.cons_append, readQuoted, ih hrest]
      · rfl
      · exact hquote
      · rintro rfl hnil
        exact hlast rfl (List.append_eq_nil_iff.1 hnil).1
      · rintro d tail rfl htail
        cases rest with
        | nil => exact hlast rfl rfl
        | cons e rest => exact hescape e rest rfl rfl
    all_goals assumption

/-- No literal ends before the last quote that is written for a text. -/
theorem readQuoted_of_prefix {text part : List Char}
    (hpart : part <+: text.flatMap Naming.literalChar) : readQuoted part = none := by
  obtain ⟨more, hmore⟩ := hpart
  cases hread : readQuoted part with
  | none => rfl
  | some result =>
    have hearly := readQuoted_append hread (more ++ ['"'])
    rw [← List.append_assoc, hmore, readQuoted_literal text []] at hearly
    simp at hearly

theorem stringLiteral_injective : Function.Injective Naming.stringLiteral := by
  intro first second hsame
  have hread := tokens_stringLiteral first []
  rw [hsame, tokens_stringLiteral second []] at hread
  simpa using hread.symm

end Script

/-! ### Lookup objects -/

/-- A text between quotes is closed by its last quote, with no other escapes in it than of backslashes and
quotes, and reads as the text, so that texts are told apart. In the lookup object of an enumeration each name
is read as it is, as a key and as a value, and nothing else is. -/
theorem stringLiteral_read_whole :
    (∀ text : String, ∃ body,
        Naming.stringLiteral text = String.ofList ('"' :: (body ++ ['"'])) ∧
        body = Script.replaced '"' ['\\', '"'] (Script.replaced '\\' ['\\', '\\'] text.toList) ∧
        (∀ rest, Script.readQuoted (body ++ '"' :: rest) = some (text.toList, rest)) ∧
        (∀ part, part <+: body → Script.readQuoted part = none) ∧
        Script.escaped body = text.toList.filter fun c => c == '\\' || c == '"') ∧
      Function.Injective Naming.stringLiteral ∧
      ∀ (type : DeclaredType) (values : List EnumValue) (entries : List BindingEntry),
        type.shape = .enumeration values → type.bindingEntries = .ok entries →
        (∀ entry ∈ values, entry.name.isText = true) ∧
        ∃ object, entries.map (·.text) = [type.identity.name.display ++ ": " ++ object] ∧
          Script.properties? object = some
            ((LookupPair.firstNames values).map
                (fun entry => (toString entry.value, .text entry.name.display)) ++
              values.map fun entry => (entry.name.display, .number entry.value)) := by
  refine ⟨fun text => ?_, Script.stringLiteral_injective, ?_⟩
  · exact ⟨text.toList.flatMap Naming.literalChar, rfl, Script.literalChars_eq_replaced _,
      Script.readQuoted_literal _, fun part => Script.readQuoted_of_prefix,
      Script.escaped_literalChars _⟩
  · intro type values entries hshape hentries
    rw [DeclaredType.bindingEntries, hshape] at hentries
    obtain ⟨pairs, hpairs, hentries⟩ := Outcome.bind_eq_ok_iff.1 hentries
    cases hentries
    obtain ⟨hwritten, rfl⟩ := LookupPair.ofValues_eq_ok_iff.1 hpairs
    refine ⟨fun entry hentry => (hwritten entry hentry).1,
      LookupPair.objectText (LookupPair.pairsOf values), ?_, ?_⟩
    · exact congrArg (fun text => [text]) (LookupPair.lookupText_eq _ _)
    · rw [LookupPair.properties?_objectText, LookupPair.pairsOf, List.map_append, List.map_map,
        List.map_map]
      rfl

/-- An enumeration with a name that would end its literal, close the object and escape the quote after it. -/
def hatchType : DeclaredType where
  identity := { space := .text "", name := .text "Hatch", arity := 0 }
  scriptSpace := "Global"
  isValueType := true
  shape := .enumeration [⟨.text "\" \x7d, \\", 3⟩]

theorem hatch_read_whole :
    (∃ entries, hatchType.bindingEntries = .ok entries) ∧
      ∀ entries, hatchType.bindingEntries = .ok entries →
        ∃ object, entries.map (·.text) = ["Hatch: " ++ object] ∧
          Script.properties? object =
            some [("3", .text "\" \x7d, \\"), ("\" \x7d, \\", .number 3)] := by
  obtain ⟨-, -, hlookups⟩ := stringLiteral_read_whole
  refine ⟨⟨[.lookup "Hatch" [.nameOf 3 "\" \x7d, \\", .valueOf "\" \x7d, \\" 3]], by decide +kernel⟩, ?_⟩
  intro entries hentries
  obtain ⟨-, object, htext, hread⟩ := hlookups hatchType _ entries rfl hentries
  exact ⟨object, htext, hread⟩

end ScriptBridge
