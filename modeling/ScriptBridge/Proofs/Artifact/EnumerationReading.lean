import Mathlib
import ScriptBridge.Artifact.Bindings
import ScriptBridge.Artifact.Declarations
import ScriptBridge.Proofs.Artifact.Totality
import ScriptBridge.Proofs.Script.Tokens
import ScriptBridge.Proofs.Surface.Description

/-!
# Enumerations as scripts read them

The crawl, the declaration and the lookup object each count through the items of an enumeration on their
own. What a script reads off the two texts are the values of the crawl.
-/

namespace ScriptBridge

/-! ### The values of items -/

/-- What the items of an enumeration stand for when an item without a value at their start is to have
the number `start`. -/
structure Numbers (start : Int) (items : List ItemDecl) (values : List EnumValue) : Prop where
  names : values.map (·.name) = items.map (·.name)
  given : ∀ (i : Nat) (item : ItemDecl) (entry : EnumValue) (n : Int),
    items[i]? = some item → values[i]? = some entry → item.value = some n → entry.value = n
  first : ∀ (item : ItemDecl) (entry : EnumValue),
    items[0]? = some item → values[0]? = some entry → item.value = none → entry.value = start
  next : ∀ (i : Nat) (item : ItemDecl) (before entry : EnumValue),
    items[i + 1]? = some item → values[i]? = some before → values[i + 1]? = some entry →
      item.value = none → entry.value = before.value + 1

theorem numbers_valuesFrom (items : List ItemDecl) (start : Int) :
    Numbers start items (valuesFrom start items) := by
  induction items generalizing start with
  | nil =>
    constructor
    · rfl
    · intro i item entry n hitem
      cases hitem
    · intro item entry hitem
      cases hitem
    · intro i item before entry hitem
      cases hitem
  | cons item items ih =>
    obtain ⟨hnames, hgiven, hfirst, hnext⟩ := ih (item.value.getD start + 1)
    constructor
    · exact congrArg (item.name :: ·) hnames
    · intro i other entry n hother hentry hvalue
      cases i with
      | zero =>
        cases hother
        cases hentry
        exact congrArg (Option.getD · start) hvalue
      | succ i => exact hgiven i other entry n hother hentry hvalue
    · intro other entry hother hentry hvalue
      cases hother
      cases hentry
      exact congrArg (Option.getD · start) hvalue
    · intro i other before entry hother hbefore hentry hvalue
      cases i with
      | zero =>
        cases hbefore
        exact hfirst other entry hother hentry hvalue
      | succ i => exact hnext i other before entry hother hbefore hentry hvalue

def EnumValue.pair (entry : EnumValue) : String × Int :=
  (entry.name.display, entry.value)

/-- The values have distinct names, and script can use them. -/
structure ScriptNames (values : List EnumValue) : Prop where
  names : ∀ entry ∈ values, ∃ name, entry.name = .text name ∧ Script.isName name.toList = true
  distinct : (values.map (·.name)).Nodup

theorem ScriptNames.tail {entry : EnumValue} {values : List EnumValue}
    (hnames : ScriptNames (entry :: values)) : ScriptNames values :=
  ⟨fun other hother => hnames.names other (List.mem_cons_of_mem _ hother),
    (List.nodup_cons.1 hnames.distinct).2⟩

/-! ### Declarations -/

namespace Script

/-- The members of an enumeration, each as the tokens between two commas. A bare member is one more
than the member before it. -/
def readMembers (next : Int) : List (List Token) → Option (List (String × Int))
  | [] => some []
  | [.word name] :: rest => (readMembers (next + 1) rest).map ((name, next) :: ·)
  | [.word name, .mark '=', .numeral text] :: rest =>
    text.toInt?.bind fun value => (readMembers (value + 1) rest).map ((name, value) :: ·)
  | _ => none

/-- What the body of an enumeration declares; its first member is zero if it is bare. -/
def enumMembers? (body : String) : Option (List (String × Int)) :=
  readMembers 0 (items (tokens body.toList))

end Script

theorem Writer.intercalate_separate (mark separator : String) (texts : List String) :
    String.intercalate separator (separate mark texts) =
      String.intercalate (mark ++ separator) texts := by
  induction texts with
  | nil => rfl
  | cons text texts ih =>
    cases texts with
    | nil => rfl
    | cons next texts =>
      have hne : separate mark (next :: texts) ≠ [] := by
        cases texts <;> simp [separate]
      rw [separate, String.intercalate_cons_of_ne_nil hne, ih, String.intercalate_cons_cons]
      · simp only [String.append_assoc]
      · exact List.cons_ne_nil next texts

namespace EnumMember

variable {values : List EnumValue} {next : Int} {members : List EnumMember}

/-- A value is written by its name alone where it is the one expected. -/
theorem exists_of_ofValuesFrom_cons {entry : EnumValue} {name : String}
    (hname : entry.name = .text name)
    (hmembers : ofValuesFrom next (entry :: values) = .ok members) :
    ∃ others, ofValuesFrom (entry.value + 1) values = .ok others ∧
      ⟨name, if entry.value = next then none else some entry.value⟩ :: others = members := by
  rw [ofValuesFrom_cons] at hmembers
  obtain ⟨first, hfirst, hrest⟩ := Outcome.bind_eq_ok_iff.1 hmembers
  obtain ⟨others, hothers, rfl⟩ := Outcome.map_eq_ok_iff.1 hrest
  refine ⟨others, hothers, congrArg (· :: others) ?_⟩
  by_cases hexpected : entry.value = next
  · rw [if_pos hexpected, hname] at hfirst
    rw [if_pos hexpected]
    cases hfirst
    rfl
  · rw [if_neg hexpected] at hfirst
    rw [if_neg hexpected]
    obtain ⟨n, hn, hmember⟩ := Outcome.bind_eq_ok_iff.1 hfirst
    obtain ⟨-, rfl⟩ := writtenNumber_eq_ok_iff.1 hn
    cases hmember
    rw [hname]
    rfl

/-- The members of values whose names are texts are made just if the numbers that are written are short
enough. -/
theorem exists_ofValues_iff (hnames : ∀ entry ∈ values, entry.name.isText = true) :
    (∃ members, ofValues values = .ok members) ↔
      ∀ entry ∈ numberedFrom 0 values, IntegerLiteral.IsShort entry.value := by
  rw [← Outcome.fault?_eq_none_iff, fault?_ofValues [], Demand.first?_eq_none_iff, demands]
  simp only [List.mem_append, List.mem_map, or_imp, forall_and]
  constructor
  · rintro ⟨hnumbers, -⟩ entry hentry
    exact hnumbers _ ⟨entry, hentry, rfl⟩
  · refine fun hshort => ⟨?_, ?_⟩
    · rintro _ ⟨entry, hentry, rfl⟩
      exact hshort entry hentry
    · rintro _ ⟨bare, hbare, rfl⟩
      obtain ⟨entry, hentry, hname⟩ := exists_of_mem_bareFrom hbare
      exact .inl (hname ▸ hnames entry hentry)

def tokens (entry : EnumMember) : List Script.Token :=
  .word entry.name ::
    match entry.number with
    | none => []
    | some n => [.mark '=', .numeral (toString n)]

theorem comma_not_mem_tokens (entry : EnumMember) : .mark ',' ∉ entry.tokens := by
  unfold tokens
  cases entry.number <;> simp

theorem reads_text {entry : EnumMember} (hname : Script.isName entry.name.toList = true) :
    Script.Reads entry.text entry.tokens := by
  unfold text tokens
  cases entry.number with
  | none => exact Script.reads_word hname
  | some n =>
    have hequals : Script.Separates " = " '=' :=
      Script.separates_of_mark (show Script.isMarkBetween [' '] '=' [' '] = true by decide +kernel)
    exact (Script.reads_word hname).append_separated hequals (Script.reads_toString n)

theorem isName_of_mem (hnames : ScriptNames values) (hmembers : ofValuesFrom next values = .ok members)
    {entry : EnumMember} (hentry : entry ∈ members) : Script.isName entry.name.toList = true := by
  induction values generalizing next members with
  | nil =>
    cases hmembers
    cases hentry
  | cons value values ih =>
    obtain ⟨name, htext, hname⟩ := hnames.names value List.mem_cons_self
    obtain ⟨others, hothers, rfl⟩ := exists_of_ofValuesFrom_cons htext hmembers
    rcases List.mem_cons.1 hentry with rfl | hentry
    · exact hname
    · exact ih hnames.tail hothers hentry

/-- The reader expects of each member the number that the writer did. -/
theorem readMembers_tokens (hnames : ScriptNames values)
    (hmembers : ofValuesFrom next values = .ok members) :
    Script.readMembers next (members.map tokens) = some (values.map (·.pair)) := by
  induction values generalizing next members with
  | nil =>
    cases hmembers
    rfl
  | cons value values ih =>
    obtain ⟨name, htext, -⟩ := hnames.names value List.mem_cons_self
    obtain ⟨others, hothers, rfl⟩ := exists_of_ofValuesFrom_cons htext hmembers
    have hrest := ih hnames.tail hothers
    have hpair : value.pair = (name, value.value) := by rw [EnumValue.pair, htext]; rfl
    rw [List.map_cons, List.map_cons, hpair]
    by_cases hexpected : value.value = next
    · rw [if_pos hexpected, tokens, Script.readMembers, ← hexpected, hrest]
      rfl
    · rw [if_neg hexpected, tokens, Script.readMembers, Script.toInt?_toString, Option.bind_some,
        hrest]
      rfl

theorem enumMembers?_text (hnames : ScriptNames values)
    (hmembers : ofValuesFrom 0 values = .ok members) :
    Script.enumMembers? (String.intercalate "\n" (Writer.separate "," (members.map (·.text)))) =
      some (values.map (·.pair)) := by
  have hcomma : Script.Separates ",\n" ',' :=
    Script.separates_of_mark (show Script.isMarkBetween [] ',' ['\n'] = true by decide +kernel)
  have hreads := Script.reads_intercalate hcomma fun entry hentry =>
    reads_text (isName_of_mem hnames hmembers hentry)
  have htokens := hreads [] Script.stops_nil
  rw [List.append_nil, Script.tokens, List.append_nil] at htokens
  rw [Script.enumMembers?, Writer.intercalate_separate]
  refine (congrArg (fun read => Script.readMembers 0 (Script.items read)) htokens).trans ?_
  rw [Script.items_intercalate, readMembers_tokens hnames hmembers]
  · intro part hpart
    obtain ⟨entry, -, rfl⟩ := List.mem_map.1 hpart
    exact comma_not_mem_tokens entry
  · intro hnil
    obtain ⟨entry, -, heq⟩ := List.mem_map.1 hnil
    cases heq

end EnumMember

/-! ### Lookup objects -/

namespace Script

inductive Constant
  | text (text : String)
  | number (n : Int)
deriving Repr, DecidableEq

/-- A property of an object, as the tokens between two commas. -/
def property? : List Token → Option (String × Constant)
  | [.literal key, .mark ':', .literal text] => some (key, .text text)
  | [.literal key, .mark ':', .numeral text] => text.toInt?.map fun n => (key, .number n)
  | _ => none

/-- The properties of an object of constants, in the order they are written in. -/
def properties? (text : String) : Option (List (String × Constant)) :=
  match tokens text.toList with
  | .mark '\x7b' :: rest =>
    if rest.getLast? = some (.mark '\x7d') then (items rest.dropLast).mapM property? else none
  | _ => none

/-- The value of a property. Of several with one key the last counts. -/
def valueOf? (properties : List (String × Constant)) (key : String) : Option Constant :=
  properties.reverse.lookup key

theorem lookup_eq_some_iff_mem {properties : List (String × Constant)} {key : String}
    {value : Constant} (hdistinct : (properties.map Prod.fst).Nodup) :
    properties.lookup key = some value ↔ (key, value) ∈ properties := by
  induction properties with
  | nil => simp
  | cons property properties ih =>
    obtain ⟨first, constant⟩ := property
    rw [List.map_cons, List.nodup_cons] at hdistinct
    obtain ⟨hfirst, hrest⟩ := hdistinct
    rw [List.lookup_cons, List.mem_cons, Prod.mk.injEq]
    by_cases hkey : key = first
    · subst hkey
      have hnone : (key, value) ∉ properties := by
        intro hmem
        exact hfirst (List.mem_map.2 ⟨_, hmem, rfl⟩)
      simp [hnone, eq_comm]
    · rw [beq_false_of_ne hkey]
      simp [hkey, ih hrest]

theorem valueOf?_eq_some_iff {properties : List (String × Constant)} {key : String}
    {value : Constant} (hdistinct : (properties.map Prod.fst).Nodup) :
    valueOf? properties key = some value ↔ (key, value) ∈ properties := by
  unfold valueOf?
  rw [lookup_eq_some_iff_mem, List.mem_reverse]
  rwa [List.map_reverse, List.nodup_reverse]

end Script

namespace LookupPair

variable {values : List EnumValue}

theorem mem_firstNames_iff {entry : EnumValue} :
    entry ∈ firstNames values ↔ values.find? (·.value == entry.value) = some entry := by
  induction values with
  | nil => simp [firstNames]
  | cons first values ih =>
    rw [firstNames, List.mem_cons, List.mem_filter, ih, List.find?_cons]
    by_cases hvalue : first.value = entry.value
    · simp [hvalue, eq_comm]
    · have hne : entry ≠ first := fun heq => hvalue (congrArg EnumValue.value heq).symm
      rw [beq_false_of_ne hvalue]
      simp [hne, Ne.symm hvalue]

theorem distinct_firstNames (values : List EnumValue) :
    ((firstNames values).map (·.value)).Nodup := by
  induction values with
  | nil => exact List.nodup_nil
  | cons first values ih =>
    rw [firstNames, List.map_cons, List.nodup_cons]
    constructor
    · intro hmem
      obtain ⟨entry, hentry, heq⟩ := List.mem_map.1 hmem
      simpa [heq] using (List.mem_filter.1 hentry).2
    · exact ih.sublist (List.filter_sublist.map _)

def tokens : LookupPair → List Script.Token
  | .nameOf value name => [.literal (toString value), .mark ':', .literal name]
  | .valueOf name value => [.literal name, .mark ':', .numeral (toString value)]

def property : LookupPair → String × Script.Constant
  | .nameOf value name => (toString value, .text name)
  | .valueOf name value => (name, .number value)

theorem reads_text (pair : LookupPair) : Script.Reads pair.text pair.tokens := by
  have hcolon : Script.Separates ": " ':' :=
    Script.separates_of_mark (show Script.isMarkBetween [] ':' [' '] = true by decide +kernel)
  cases pair with
  | nameOf value name =>
    exact (Script.reads_stringLiteral (toString value)).append_separated hcolon
      (Script.reads_stringLiteral name)
  | valueOf name value =>
    exact (Script.reads_stringLiteral name).append_separated hcolon (Script.reads_toString value)

theorem property?_tokens (pair : LookupPair) :
    Script.property? pair.tokens = some pair.property := by
  cases pair with
  | nameOf value name => rfl
  | valueOf name value =>
    rw [tokens, Script.property?, Script.toInt?_toString]
    rfl

theorem mapM_property?_tokens (pairs : List LookupPair) :
    (pairs.map tokens).mapM Script.property? = some (pairs.map (·.property)) := by
  induction pairs with
  | nil => rfl
  | cons pair pairs ih =>
    rw [List.map_cons, List.mapM_cons, property?_tokens, ih]
    rfl

def objectText (pairs : List LookupPair) : String :=
  "\x7b " ++ String.intercalate ", " (pairs.map (·.text)) ++ " \x7d"

theorem lookupText_eq (name : String) (pairs : List LookupPair) :
    lookupText name pairs = name ++ ": " ++ objectText pairs := by
  have hsplit : ": \x7b " = ": " ++ "\x7b " := by decide
  rw [lookupText, objectText, hsplit]
  simp only [String.append_assoc]

/-- Whatever the names are, none of them breaks out of the object. -/
theorem properties?_objectText (pairs : List LookupPair) :
    Script.properties? (objectText pairs) = some (pairs.map (·.property)) := by
  have hcomma : Script.Separates ", " ',' :=
    Script.separates_of_mark (show Script.isMarkBetween [] ',' [' '] = true by decide +kernel)
  have hopen : Script.Separates "\x7b " '\x7b' :=
    Script.separates_of_mark (show Script.isMarkBetween [] '\x7b' [' '] = true by decide +kernel)
  have hclose : Script.Separates " \x7d" '\x7d' :=
    Script.separates_of_mark (show Script.isMarkBetween [' '] '\x7d' [] = true by decide +kernel)
  have hend : Script.tokens " \x7d".toList = [.mark '\x7d'] := by
    have := hclose.tokens_append []
    rwa [List.append_nil, Script.tokens] at this
  have hstops : Script.Stops " \x7d".toList := by
    have := hclose.stops []
    rwa [List.append_nil] at this
  have htokens : Script.tokens (objectText pairs).toList =
      .mark '\x7b' :: ([.mark ','].intercalate (pairs.map tokens) ++ [.mark '\x7d']) := by
    rw [objectText, String.toList_append, String.toList_append, List.append_assoc,
      hopen.tokens_append,
      Script.reads_intercalate hcomma (fun pair _ => reads_text pair) _ hstops, hend]
  have hitems : Script.items ([.mark ','].intercalate (pairs.map tokens)) = pairs.map tokens := by
    apply Script.items_intercalate
    · intro part hpart
      obtain ⟨pair, -, rfl⟩ := List.mem_map.1 hpart
      cases pair <;> simp [tokens]
    · intro hnil
      obtain ⟨pair, -, heq⟩ := List.mem_map.1 hnil
      cases pair <;> cases heq
  unfold Script.properties?
  rw [htokens]
  simp only
  rw [List.getLast?_concat, if_pos rfl, List.dropLast_concat, hitems, mapM_property?_tokens]

theorem display_of_mem (hnames : ScriptNames values) {entry : EnumValue} (hentry : entry ∈ values) :
    entry.name = .text entry.name.display ∧ Script.isName entry.name.display.toList = true := by
  obtain ⟨name, htext, hname⟩ := hnames.names entry hentry
  rw [htext]
  exact ⟨rfl, hname⟩

theorem isText_of_scriptNames (hnames : ScriptNames values) :
    ∀ entry ∈ values, entry.name.isText = true := by
  intro entry hentry
  rw [(display_of_mem hnames hentry).1]
  rfl

/-- No name is the text of a number, so that no property takes the place of another. -/
theorem distinct_pairsOf (hnames : ScriptNames values) :
    (((pairsOf values).map (·.property)).map Prod.fst).Nodup := by
  have hkeys : ((pairsOf values).map (·.property)).map Prod.fst =
      ((firstNames values).map (·.value)).map toString ++ values.map (·.name.display) := by
    simp only [pairsOf, List.map_append, List.map_map]
    rfl
  rw [hkeys, List.nodup_append]
  refine ⟨?_, ?_, ?_⟩
  · refine (distinct_firstNames values).map fun a b heq => ?_
    simpa [Int.toString_eq_repr, Int.repr_inj] using heq
  · refine List.Nodup.of_map Value.text ?_
    have htexts : (values.map (·.name.display)).map Value.text = values.map (·.name) := by
      rw [List.map_map]
      exact List.map_congr_left fun entry hentry => (display_of_mem hnames hentry).1.symm
    rw [htexts]
    exact hnames.distinct
  · intro key hkey other hother heq
    obtain ⟨n, -, rfl⟩ := List.mem_map.1 hkey
    obtain ⟨entry, hentry, rfl⟩ := List.mem_map.1 hother
    have hname := (display_of_mem hnames hentry).2
    rw [← heq, Script.isName_toString] at hname
    cases hname

/-- An object leads from each value to the first name that has it, from each name to its value, and
from nothing else to anything. -/
theorem valueOf?_pairsOf_iff (hnames : ScriptNames values) {key : String} {value : Script.Constant} :
    Script.valueOf? ((pairsOf values).map (·.property)) key = some value ↔
      (∃ entry, values.find? (·.value == entry.value) = some entry ∧
        key = toString entry.value ∧ value = .text entry.name.display) ∨
      ∃ entry ∈ values, key = entry.name.display ∧ value = .number entry.value := by
  rw [Script.valueOf?_eq_some_iff (distinct_pairsOf hnames), pairsOf, List.map_append,
    List.mem_append, List.map_map, List.map_map, List.mem_map, List.mem_map]
  apply or_congr
  · constructor
    · rintro ⟨entry, hentry, heq⟩
      cases heq
      exact ⟨entry, mem_firstNames_iff.1 hentry, rfl, rfl⟩
    · rintro ⟨entry, hentry, rfl, rfl⟩
      exact ⟨entry, mem_firstNames_iff.2 hentry, rfl⟩
  · constructor
    · rintro ⟨entry, hentry, heq⟩
      cases heq
      exact ⟨entry, hentry, rfl, rfl⟩
    · rintro ⟨entry, hentry, rfl, rfl⟩
      exact ⟨entry, hentry, rfl⟩

end LookupPair

/-! ### An enumeration and its two texts -/

/-- A script that reads the body of a declared enumeration finds some values, in their order. -/
def TypeDeclaration.Declares (declared : TypeDeclaration) (name : String)
    (values : List EnumValue) : Prop :=
  ∃ lines, declared.layout = .block ("export enum " ++ name ++ " \x7b") (lines.map .line) "\x7d" ∧
    Script.enumMembers? (String.intercalate "\n" lines) = some (values.map (·.pair))

/-- A script that reads a lookup object finds under the text of a value the first name that has it,
under a name its value, and nothing anywhere else. -/
def BindingEntry.LooksUp (entry : BindingEntry) (name : String) (values : List EnumValue) : Prop :=
  ∃ object properties, entry.text = name ++ ": " ++ object ∧
    Script.properties? object = some properties ∧
    ∀ key value, Script.valueOf? properties key = some value ↔
      (∃ entry, values.find? (·.value == entry.value) = some entry ∧
        key = toString entry.value ∧ value = .text entry.name.display) ∨
      ∃ entry ∈ values, key = entry.name.display ∧ value = .number entry.value

section Texts

variable {type : DeclaredType} {values : List EnumValue}

theorem exists_declaration_iff (surface : Surface) (handlers : TypeHandlers)
    (hshape : type.shape = .enumeration values) (hnames : ScriptNames values) :
    (∃ declared, TypeDeclaration.ofType surface handlers type = .ok declared) ↔
      ∀ entry ∈ EnumMember.numberedFrom 0 values, IntegerLiteral.IsShort entry.value := by
  rw [← EnumMember.exists_ofValues_iff (LookupPair.isText_of_scriptNames hnames),
    TypeDeclaration.ofType, hshape]
  constructor
  · rintro ⟨declared, hdeclared⟩
    obtain ⟨members, hmembers, -⟩ := Outcome.bind_eq_ok_iff.1 hdeclared
    exact ⟨members, hmembers⟩
  · exact fun hmembers => Outcome.exists_bind_eq_ok hmembers fun _ => ⟨_, rfl⟩

theorem declares_of_ofType {surface : Surface} {handlers : TypeHandlers} {declared : TypeDeclaration}
    (hshape : type.shape = .enumeration values) (hnames : ScriptNames values)
    (hdeclared : TypeDeclaration.ofType surface handlers type = .ok declared) :
    declared.Declares type.identity.name.display values := by
  rw [TypeDeclaration.ofType, hshape] at hdeclared
  obtain ⟨members, hmembers, heq⟩ := Outcome.bind_eq_ok_iff.1 hdeclared
  cases heq
  obtain ⟨-, -, hmembers⟩ := Outcome.bind_eq_ok_iff.1 hmembers
  exact ⟨_, rfl, EnumMember.enumMembers?_text hnames hmembers⟩

theorem bindingEntries_eq_ok_iff (hshape : type.shape = .enumeration values)
    (hnames : ScriptNames values) {entries : List BindingEntry} :
    type.bindingEntries = .ok entries ↔
      (∀ entry ∈ values, IntegerLiteral.IsShort entry.value) ∧
        entries = [.lookup type.identity.name.display (LookupPair.pairsOf values)] := by
  have htexts := LookupPair.isText_of_scriptNames hnames
  rw [DeclaredType.bindingEntries, hshape]
  constructor
  · intro hentries
    obtain ⟨pairs, hpairs, heq⟩ := Outcome.bind_eq_ok_iff.1 hentries
    obtain ⟨hwritten, rfl⟩ := LookupPair.ofValues_eq_ok_iff.1 hpairs
    cases heq
    exact ⟨fun entry hentry => (hwritten entry hentry).2, rfl⟩
  · rintro ⟨hshort, rfl⟩
    exact Outcome.bind_eq_ok_iff.2 ⟨_, LookupPair.ofValues_eq_pairsOf htexts hshort, rfl⟩

theorem looksUp_pairsOf (name : String) (hnames : ScriptNames values) :
    (BindingEntry.lookup name (LookupPair.pairsOf values)).LooksUp name values :=
  ⟨_, _, LookupPair.lookupText_eq name _, LookupPair.properties?_objectText _, fun _ _ =>
    LookupPair.valueOf?_pairsOf_iff hnames⟩

end Texts

theorem scriptNames_of_numbers {start : Int} {items : List ItemDecl} {values : List EnumValue}
    (hnumbers : Numbers start items values)
    (hnames : ∀ item ∈ items, ∃ name, item.name = .text name ∧ Script.isName name.toList = true)
    (hdistinct : (items.map (·.name)).Nodup) : ScriptNames values := by
  constructor
  · intro entry hentry
    have hmem : entry.name ∈ items.map (·.name) := hnumbers.names ▸ List.mem_map_of_mem hentry
    obtain ⟨item, hitem, heq⟩ := List.mem_map.1 hmem
    rw [← heq]
    exact hnames item hitem
  · rw [hnumbers.names]
    exact hdistinct

/-- An enumeration is always described, by the explicit values of its items and the successors of their
predecessors. Its declaration is made if and only if no value that does not follow its predecessor is too
long to be written, and then reads as these values. Its lookup object is made if and only if no value at
all is, and then leads from values to names and back. -/
theorem enumeration_reads_back (registry : Registry) (surface : Surface) (handlers : TypeHandlers)
    (identity : TypeIdentity) (decl : TypeDecl) (scriptSpace : String)
    (hkind : decl.kind = .enumeration)
    (hnames : ∀ item ∈ decl.items, ∃ name,
      item.name = .text name ∧ Script.isName name.toList = true)
    (hdistinct : (decl.items.map (·.name)).Nodup) :
    ∃ type values, describe registry identity decl scriptSpace = .ok type ∧
      type.shape = .enumeration values ∧ Numbers 0 decl.items values ∧
      ((∃ declared, TypeDeclaration.ofType surface handlers type = .ok declared) ↔
        ∀ entry ∈ EnumMember.numberedFrom 0 values, IntegerLiteral.IsShort entry.value) ∧
      (∀ declared, TypeDeclaration.ofType surface handlers type = .ok declared →
        declared.Declares identity.name.display values) ∧
      ((∃ entries, type.bindingEntries = .ok entries) ↔
        ∀ entry ∈ values, IntegerLiteral.IsShort entry.value) ∧
      ∀ entries, type.bindingEntries = .ok entries →
        ∃ entry, entries = [entry] ∧ entry.LooksUp identity.name.display values := by
  have hnumbers := numbers_valuesFrom decl.items 0
  have hvalues := scriptNames_of_numbers hnumbers hnames hdistinct
  obtain ⟨type, htype⟩ : ∃ type, describe registry identity decl scriptSpace = .ok type := by
    refine Outcome.exists_bind_eq_ok ?_ fun shape => ⟨_, rfl⟩
    rw [shapeOf, hkind]
    exact ⟨_, rfl⟩
  have hshape : type.shape = .enumeration (valuesFrom 0 decl.items) := by
    rcases shape_of_describe htype with ⟨-, hshape⟩ | ⟨hobject, -⟩
    · exact hshape
    · rw [hkind] at hobject
      cases hobject
  obtain rfl := identity_of_describe htype
  refine ⟨type, _, htype, hshape, hnumbers, exists_declaration_iff surface handlers hshape hvalues,
    fun declared => declares_of_ofType hshape hvalues, ?_, ?_⟩
  · constructor
    · rintro ⟨entries, hentries⟩
      exact ((bindingEntries_eq_ok_iff hshape hvalues).1 hentries).1
    · exact fun hshort => ⟨_, (bindingEntries_eq_ok_iff hshape hvalues).2 ⟨hshort, rfl⟩⟩
  · intro entries hentries
    obtain ⟨-, rfl⟩ := (bindingEntries_eq_ok_iff hshape hvalues).1 hentries
    exact ⟨_, rfl, looksUp_pairsOf _ hvalues⟩

section Instances

/-- An enumeration with a negative and a repeated value. -/
def levelDecl : TypeDecl :=
  { kind := .enumeration, space := .text "game", name := .text "Level", parameters := [],
    members := [], bases := [], isValueType := true,
    items := [⟨.text "Low", some (-1)⟩, ⟨.text "Mid", none⟩, ⟨.text "Base", some (-1)⟩,
      ⟨.text "Start", none⟩, ⟨.text "High", some 7⟩] }

theorem level_reads_back :
    ∃ type values, describe {} levelDecl.identity levelDecl "game" = .ok type ∧
      values.map (·.pair) =
        [("Low", -1), ("Mid", 0), ("Base", -1), ("Start", 0), ("High", 7)] ∧
      (∃ declared, TypeDeclaration.ofType {} [] type = .ok declared ∧
        declared.Declares "Level" values) ∧
      ∃ entry, type.bindingEntries = .ok [entry] ∧ entry.LooksUp "Level" values := by
  obtain ⟨type, values, htype, hshape, -, hmade, hdeclares, hbound, hlookup⟩ :=
    enumeration_reads_back {} {} [] levelDecl.identity levelDecl "game" rfl
      (by
        intro item hitem
        fin_cases hitem <;> exact ⟨_, rfl, by decide +kernel⟩)
      (by decide)
  cases htype
  cases hshape
  obtain ⟨declared, hdeclared⟩ := hmade.2 (by decide +kernel)
  obtain ⟨entries, hentries⟩ := hbound.2 (by decide +kernel)
  obtain ⟨entry, rfl, hlooksUp⟩ := hlookup entries hentries
  exact ⟨_, _, rfl, rfl, ⟨declared, hdeclared, hdeclares declared hdeclared⟩, entry, hentries, hlooksUp⟩

/-- An item that follows the largest number that can be written. -/
def brimDecl : TypeDecl :=
  { kind := .enumeration, space := .text "game", name := .text "Brim", parameters := [],
    members := [], bases := [], isValueType := true,
    items := [⟨.text "Full", some (Nat.pow 10 IntegerLiteral.digitLimit - 1)⟩,
      ⟨.text "Over", none⟩] }

theorem isShort_brim : IntegerLiteral.IsShort (Nat.pow 10 IntegerLiteral.digitLimit - 1) := by
  have hbelow : ∀ limit : Nat, 0 < limit → ((limit : Int) - 1).natAbs < limit := by omega
  exact hbelow _ IntegerLiteral.isShort_zero

theorem not_isShort_over : ¬ IntegerLiteral.IsShort (Nat.pow 10 IntegerLiteral.digitLimit - 1 + 1) := by
  intro hshort
  rw [sub_add_cancel, IntegerLiteral.IsShort, Int.natAbs_natCast] at hshort
  exact lt_irrefl _ hshort

/-- Of two values that follow each other only the first may have to be written. -/
theorem isShort_numberedFrom_pair {a b : Value} {next n : Int} (hshort : IntegerLiteral.IsShort n) :
    ∀ entry ∈ EnumMember.numberedFrom next [⟨a, n⟩, ⟨b, n + 1⟩], IntegerLiteral.IsShort entry.value := by
  intro entry hentry
  have hvalue : entry.value = n := by
    simp only [EnumMember.numberedFrom, if_true] at hentry
    split at hentry
    · cases hentry
    · rw [List.mem_singleton.1 hentry]
  rwa [hvalue]

/-- The declaration of such an enumeration is made, and its lookup object is not. -/
theorem brim_not_looked_up :
    ∃ type, describe {} brimDecl.identity brimDecl "game" = .ok type ∧
      (∃ declared, TypeDeclaration.ofType {} [] type = .ok declared ∧
        declared.Declares "Brim" type.values) ∧
      ∀ entries, type.bindingEntries ≠ .ok entries := by
  have hnames : ScriptNames (valuesFrom 0 brimDecl.items) := by
    apply scriptNames_of_numbers (numbers_valuesFrom brimDecl.items 0)
    · intro item hitem
      fin_cases hitem <;> exact ⟨_, rfl, by decide +kernel⟩
    · decide
  obtain ⟨type, htype⟩ : ∃ type, describe {} brimDecl.identity brimDecl "game" = .ok type := ⟨_, rfl⟩
  have hshape : type.shape = .enumeration (valuesFrom 0 brimDecl.items) := by
    cases htype
    rfl
  have hvalues : type.values = valuesFrom 0 brimDecl.items := by
    rw [DeclaredType.values, hshape]
  obtain ⟨declared, hdeclared⟩ :=
    (exists_declaration_iff {} [] hshape hnames).2 (isShort_numberedFrom_pair isShort_brim)
  have hdeclares := declares_of_ofType hshape hnames hdeclared
  rw [identity_of_describe htype, ← hvalues] at hdeclares
  refine ⟨type, htype, ⟨declared, hdeclared, hdeclares⟩, ?_⟩
  intro entries hentries
  obtain ⟨hshort, -⟩ := (bindingEntries_eq_ok_iff hshape hnames).1 hentries
  have hover : (⟨.text "Over", Nat.pow 10 IntegerLiteral.digitLimit - 1 + 1⟩ : EnumValue) ∈
      valuesFrom 0 brimDecl.items := List.mem_cons_of_mem _ List.mem_cons_self
  have hlong := hshort _ hover
  exact not_isShort_over hlong

end Instances

end ScriptBridge
