import ScriptBridge.Descriptor.Loader
import ScriptBridge.Proofs.Outcome
import ScriptBridge.Proofs.Value.Digits

/-!
# What loading reports

A document of any shape is loaded if and only if it has what is required of a descriptor. If each value in
it can be used as the loader uses it, then loading gives a module or reports a defect: a list that is not
there or lacks a name is a defect, and so is a value of an item that is no whole number.
-/

namespace ScriptBridge

/-! ### Outcomes that are reported -/

/-- The operation succeeds, or it reports a defect. -/
def Reports {α : Type} (x : Except Error α) : Prop :=
  ∀ misuse, x ≠ .error (.misused misuse)

section Reports

variable {α β : Type} {x : Except Error α}

theorem reports_iff : Reports x ↔
    (∃ a, x = .ok a) ∨ ∃ path defect, x = .error (.rejected path defect) := by
  constructor
  · intro hreports
    match x, hreports with
    | .ok a, _ => exact .inl ⟨a, rfl⟩
    | .error (.rejected path defect), _ => exact .inr ⟨path, defect, rfl⟩
    | .error (.misused misuse), hreports => exact absurd rfl (hreports misuse)
  · rintro (⟨a, rfl⟩ | ⟨path, defect, rfl⟩) misuse heq <;> cases heq

theorem reports_ok (a : α) : Reports (.ok a : Except Error α) := by
  intro misuse heq
  cases heq

theorem reports_reject (defect : Defect) : Reports (Descriptor.reject defect : Except Error α) := by
  intro misuse heq
  cases heq

theorem Reports.bind {f : α → Except Error β} (hx : Reports x)
    (hf : ∀ a, x = .ok a → Reports (f a)) : Reports (x >>= f) := by
  intro misuse heq
  rcases Outcome.bind_eq_error_iff.1 heq with heq | ⟨a, ha, heq⟩
  · exact hx misuse heq
  · exact hf a ha misuse heq

theorem reports_mapM {f : α → Except Error β} {xs : List α} (hf : ∀ x ∈ xs, Reports (f x)) :
    Reports (xs.mapM f) := by
  intro misuse heq
  obtain ⟨x, hx, hfails⟩ := Outcome.exists_of_mapM_eq_error heq
  exact hf x hx misuse hfails

theorem reports_foldlM {step : β → α → Except Error β} {xs : List α}
    (hstep : ∀ before, ∀ x ∈ xs, Reports (step before x)) (before : β) :
    Reports (xs.foldlM step before) := by
  induction xs generalizing before with
  | nil => exact reports_ok before
  | cons x xs ih =>
    rw [List.foldlM_cons]
    refine (hstep before x List.mem_cons_self).bind fun middle _ => ?_
    exact ih (fun before other hother => hstep before other (List.mem_cons_of_mem _ hother)) middle

theorem Reports.within (hx : Reports x) (name : String) :
    Reports (x.mapError (Error.within name)) := by
  rcases reports_iff.1 hx with ⟨a, rfl⟩ | ⟨path, defect, rfl⟩
  · exact reports_ok a
  · intro misuse heq
    cases heq

end Reports

/-! ### Descriptors and values that can be used as such -/

namespace Value

structure Has (keys : List String) (v : Value) : Prop where
  record : ∃ fields, v = .record fields
  holds : ∀ key ∈ keys, v.holds key = .ok true

/-- Some names can be sought in the value, and if all are found then it is a record. -/
def Offers (keys : List String) (v : Value) : Prop :=
  (∃ fields, v = .record fields) ∨ ∃ key ∈ keys, v.holds key = .ok false

/-- What stands under a name can be gone through, and what is found there has a property. -/
def Lists (P : Value → Prop) (key : String) (v : Value) : Prop :=
  ∀ given, v.field? key = .ok (some given) →
    ∃ items, given.elements = .ok items ∧ ∀ item ∈ items, P item

structure IsItem (v : Value) : Prop where
  names : v.Has ["name"]
  value : ∀ given, v.field? "value" = .ok (some given) →
    given = .null ∨ ∃ n, Descriptor.itemValue? given = .ok (some n)

/-- An item of an enumeration that can be looked at, its value not infinite. -/
structure FitsItem (v : Value) : Prop where
  offers : v.Offers ["name"]
  finite : ∀ negative, v.field? "value" ≠ .ok (some (.double (.infinite negative)))

structure IsType (v : Value) : Prop where
  names : v.Has ["name"]
  kind : ∀ given, v.field? "kind" = .ok (some given) → ∃ kind : TypeKind, given = .text kind.text
  key : ∀ decl, Descriptor.typeOf v = .ok decl → decl.key.isHashable = true
  members : v.Lists (Has ["name", "type"]) "members"
  items : v.Lists IsItem "items"
  parameters : v.Lists (fun _ => True) "type_params"
  bases : v.Lists (fun _ => True) "extends"

structure FitsType (v : Value) : Prop where
  offers : v.Offers ["name"]
  key : ∀ decl, Descriptor.typeOf v = .ok decl → decl.key.isHashable = true
  members : v.Lists (Offers ["name", "type"]) "members"
  items : v.Lists FitsItem "items"
  parameters : v.Lists (fun _ => True) "type_params"
  bases : v.Lists (fun _ => True) "extends"

structure IsMethod (v : Value) : Prop where
  names : v.Has ["name"]
  parameters : v.Lists (Has ["name", "type"]) "args"

structure FitsMethod (v : Value) : Prop where
  offers : v.Offers ["name"]
  parameters : v.Lists (Offers ["name", "type"]) "args"

/-- A descriptor of a module that is called as its source if it has no name of its own. -/
structure IsDescriptor (source : String) (document : Value) : Prop where
  record : ∃ fields, document = .record fields
  assembly : source.isEmpty = false ∨
    ∃ given, document.field? "assembly" = .ok (some given) ∧ given.isTruthy = true
  types : document.Lists IsType "types"
  methods : document.Lists IsMethod "methods"
  rules : document.Lists (Has ["pattern"]) "namespace_rules"

/-- What the loader goes through in a document can be gone through, and what it tells of can be shown. A
document that is no record fits like any other. -/
structure Fits (document : Value) : Prop where
  short : document.Short
  types : document.Lists FitsType "types"
  methods : document.Lists FitsMethod "methods"
  rules : document.Lists (Offers ["pattern"]) "namespace_rules"

variable {v : Value} {keys : List String} {key source : String} {P Q : Value → Prop}

theorem Lists.mono (hlists : v.Lists P key) (himplies : ∀ item, P item → Q item) : v.Lists Q key := by
  intro given hgiven
  obtain ⟨items, hitems, hall⟩ := hlists given hgiven
  exact ⟨items, hitems, fun item hitem => himplies item (hall item hitem)⟩

theorem Has.offers (hhas : v.Has keys) : v.Offers keys :=
  .inl hhas.record

theorem IsItem.fits (hitem : v.IsItem) : v.FitsItem where
  offers := hitem.names.offers
  finite := by
    intro negative hinfinite
    rcases hitem.value _ hinfinite with hnull | ⟨n, hvalue⟩
    · cases hnull
    · cases hvalue

theorem IsType.fits (htype : v.IsType) : v.FitsType where
  offers := htype.names.offers
  key := htype.key
  members := htype.members.mono fun _ => Has.offers
  items := htype.items.mono fun _ => IsItem.fits
  parameters := htype.parameters
  bases := htype.bases

theorem IsMethod.fits (hmethod : v.IsMethod) : v.FitsMethod where
  offers := hmethod.names.offers
  parameters := hmethod.parameters.mono fun _ => Has.offers

theorem IsDescriptor.fits (hdescriptor : v.IsDescriptor source) (hshort : v.Short) : v.Fits where
  short := hshort
  types := hdescriptor.types.mono fun _ => IsType.fits
  methods := hdescriptor.methods.mono fun _ => IsMethod.fits
  rules := hdescriptor.rules.mono fun _ => Has.offers

/-- What holds any of some names, or does not, can be searched for each. -/
theorem exists_holds_of_false (hholds : v.holds key = .ok false) (other : String) :
    ∃ found, v.holds other = .ok found := by
  cases v with
  | record fields => exact ⟨_, rfl⟩
  | list items => exact ⟨_, rfl⟩
  | text s => exact ⟨_, rfl⟩
  | _ => cases hholds

end Value

namespace Descriptor

open Value

variable {v : Value} {keys : List String} {key : String} {defect : Defect}

theorem reports_require (hoffers : v.Offers keys) : Reports (require keys v defect) := by
  have hsearched : ∀ more, (∀ key ∈ more, ∃ found, v.holds key = .ok found) →
      Reports (require more v defect) := by
    intro more hmore
    induction more with
    | nil => exact reports_ok ()
    | cons key more ih =>
      obtain ⟨found, hfound⟩ := hmore key List.mem_cons_self
      rw [require, hfound]
      cases found with
      | false => exact reports_reject defect
      | true => exact ih fun other hother => hmore other (List.mem_cons_of_mem _ hother)
  apply hsearched
  intro key _
  rcases hoffers with ⟨fields, rfl⟩ | ⟨missing, -, hmissing⟩
  · exact ⟨_, rfl⟩
  · exact exists_holds_of_false hmissing key

theorem holds_of_require (hrequire : require keys v defect = .ok ()) (hkey : key ∈ keys) :
    v.holds key = .ok true := by
  induction keys with
  | nil => cases hkey
  | cons first keys ih =>
    obtain ⟨found, hfound, hrest⟩ := Outcome.bind_eq_ok_iff.1 hrequire
    cases hholds : v.holds first with
    | error misuse =>
      rw [hholds] at hfound
      cases hfound
    | ok held =>
      rw [hholds] at hfound
      cases hfound
      cases found with
      | false => cases hrest
      | true =>
        rcases List.mem_cons.1 hkey with rfl | hkey
        · exact hholds
        · exact ih hrest hkey

theorem exists_record_of_require (hoffers : v.Offers keys)
    (hrequire : require keys v defect = .ok ()) : ∃ fields, v = .record fields := by
  rcases hoffers with hrecord | ⟨key, hkey, hmissing⟩
  · exact hrecord
  · rw [holds_of_require hrequire hkey] at hmissing
    cases hmissing

/-- A value with some names is used as a record from there on. -/
theorem reports_of_require {α : Type} {f : Unit → Except Error α} (hoffers : v.Offers keys)
    (hf : ∀ fields, v = .record fields → Reports (f ())) :
    Reports (require keys v defect >>= f) := by
  refine (reports_require hoffers).bind fun _ hrequire => ?_
  obtain ⟨fields, hrecord⟩ := exists_record_of_require hoffers hrequire
  exact hf fields hrecord

/-- A list that may be gone through is read, with what is known of its elements. -/
theorem exists_listField {P : Value → Prop} (hlists : v.Lists P key)
    (hrecord : ∃ fields, v = .record fields) :
    ∃ items, listField key v = .ok items ∧ ∀ item ∈ items, P item := by
  obtain ⟨fields, rfl⟩ := hrecord
  cases hfield : (fields.find? (·.1 == key)).map (·.2) with
  | none =>
    refine ⟨[], Outcome.bind_eq_ok_iff.2 ⟨none, congrArg (fun found => use (.ok found)) hfield, rfl⟩, ?_⟩
    exact fun item hitem => nomatch hitem
  | some given =>
    obtain ⟨items, hitems, hall⟩ := hlists given (congrArg Except.ok hfield)
    refine ⟨items, Outcome.bind_eq_ok_iff.2
      ⟨some given, congrArg (fun found => use (.ok found)) hfield, ?_⟩, hall⟩
    exact congrArg use hitems

theorem reports_of_listField {α : Type} {P : Value → Prop} {f : List Value → Except Error α}
    (hlists : v.Lists P key) (hrecord : ∃ fields, v = .record fields)
    (hf : ∀ items, (∀ item ∈ items, P item) → Reports (f items)) :
    Reports (listField key v >>= f) := by
  obtain ⟨items, hitems, hall⟩ := exists_listField hlists hrecord
  rw [hitems]
  exact hf items hall

/-! ### The parts of a document that fits -/

theorem reports_parameterOf (method : String) (hoffers : v.Offers ["name", "type"]) :
    Reports (parameterOf method v) := by
  apply reports_of_require hoffers
  rintro fields rfl
  refine (reports_ok _).bind fun name _ => (reports_ok _).bind fun type _ => ?_
  exact reports_ok _

theorem reports_memberOf (type : String) (hoffers : v.Offers ["name", "type"]) :
    Reports (memberOf type v) := by
  apply reports_of_require hoffers
  rintro fields rfl
  have hflag : ∀ key, Reports (flagField key (.record fields)) := fun key =>
    (reports_ok _).bind fun _ _ => reports_ok _
  refine (reports_ok _).bind fun name _ => (reports_ok _).bind fun exprText _ => ?_
  exact (hflag "static").bind fun _ _ => (hflag "computed").bind fun _ _ => reports_ok _

theorem reports_use_itemValue? {given : Value}
    (hfinite : ∀ negative, given ≠ .double (.infinite negative)) :
    Reports (use (itemValue? given)) := by
  cases given with
  | double x =>
    cases x with
    | infinite negative => exact absurd rfl (hfinite negative)
    | _ => exact reports_ok _
  | _ => exact reports_ok _

theorem reports_itemOf (type : String) (hfits : v.FitsItem) : Reports (itemOf type v) := by
  have hfinite := hfits.finite
  apply reports_of_require hfits.offers
  rintro fields rfl
  refine (reports_ok _).bind fun found hfound => ?_
  cases hfound
  split
  · exact (reports_ok _).bind fun _ _ => reports_ok _
  · rename_i given _
    refine (reports_ok _).bind fun name _ => (reports_use_itemValue? fun negative heq => ?_).bind
      fun number _ => ?_
    · cases hfield : (fields.find? (·.1 == "value")).map (·.2) with
      | none =>
        rw [hfield] at heq
        cases heq
      | some other =>
        rw [hfield] at heq
        exact hfinite negative (congrArg Except.ok (hfield.trans (congrArg some heq)))
    · cases number with
      | none => exact reports_reject _
      | some n => exact reports_ok _

theorem reports_kindOf (type : String) (given : Value) : Reports (kindOf type given) := by
  unfold kindOf
  split
  · exact reports_ok _
  · exact reports_reject _

theorem reports_typeOf (hfits : v.FitsType) : Reports (typeOf v) := by
  obtain ⟨hoffers, -, hmembers, hitems, hparameters, hbases⟩ := hfits
  apply reports_of_require hoffers
  rintro fields rfl
  have hrecord : ∃ others, Value.record fields = .record others := ⟨fields, rfl⟩
  refine (reports_ok _).bind fun givenKind _ => (reports_ok _).bind fun name _ =>
    (reports_kindOf _ _).bind fun kind _ => ?_
  refine reports_of_listField hmembers hrecord fun members hall => ?_
  refine (reports_mapM fun member hmember =>
    reports_memberOf _ (hall member hmember)).bind fun _ _ => ?_
  refine reports_of_listField hitems hrecord fun items hall => ?_
  refine (reports_mapM fun item hitem => reports_itemOf _ (hall item hitem)).bind fun _ _ => ?_
  refine (reports_ok _).bind fun space _ => ?_
  refine reports_of_listField hparameters hrecord fun _ _ => ?_
  refine reports_of_listField hbases hrecord fun _ _ => ?_
  exact (reports_ok _).bind fun _ _ => reports_ok _

theorem reports_methodOf (hfits : v.FitsMethod) : Reports (methodOf v) := by
  obtain ⟨hoffers, hparameters⟩ := hfits
  apply reports_of_require hoffers
  rintro fields rfl
  refine (reports_ok _).bind fun kind _ => ?_
  refine reports_of_listField hparameters ⟨fields, rfl⟩ fun parameters hall => ?_
  refine (reports_ok _).bind fun name _ => ?_
  refine (reports_mapM fun parameter hparameter =>
    reports_parameterOf _ (hall parameter hparameter)).bind fun _ _ => ?_
  exact (reports_ok _).bind fun _ _ => (reports_ok _).bind fun _ _ =>
    (reports_ok _).bind fun _ _ => reports_ok _

theorem reports_ruleOf (hoffers : v.Offers ["pattern"]) : Reports (ruleOf v) := by
  apply reports_of_require hoffers
  rintro fields rfl
  exact (reports_ok _).bind fun _ _ => (reports_ok _).bind fun _ _ => reports_ok _

/-- One step of reading the types: a type that is read and has a key is put among those before it. -/
def typeStep (types : List TypeDecl) (given : Value) : Except Error (List TypeDecl) := do
  let decl ← typeOf given
  if decl.key.isHashable then return putType types decl else use (.error .notHashable)

theorem typesOf_eq_foldlM (decls : List Value) : typesOf decls = decls.foldlM typeStep [] := rfl

theorem reports_typesOf {decls : List Value} (hfits : ∀ decl ∈ decls, decl.FitsType) :
    Reports (typesOf decls) := by
  rw [typesOf_eq_foldlM]
  refine reports_foldlM (fun before given hgiven => ?_) []
  refine (reports_typeOf (hfits given hgiven)).bind fun decl hread => ?_
  rw [if_pos ((hfits given hgiven).key decl hread)]
  exact reports_ok (putType before decl)

/-- Loading a document that fits gives a module or reports a defect. -/
theorem reports_ofValue {document : Value} (hfits : document.Fits) (source : String) :
    Reports (ofValue document source) := by
  unfold ofValue
  split
  · rename_i fields
    obtain ⟨-, htypes, hmethods, hrules⟩ := hfits
    have hrecord : ∃ others, Value.record fields = .record others := ⟨fields, rfl⟩
    refine (reports_ok _).bind fun given _ => ?_
    simp only
    split
    · refine Reports.within ?_ _
      refine reports_of_listField htypes hrecord fun types hall => ?_
      refine (reports_typesOf hall).bind fun _ _ => ?_
      refine reports_of_listField hmethods hrecord fun methods hall => ?_
      refine (reports_mapM fun method hmethod =>
        reports_methodOf (hall method hmethod)).bind fun _ _ => ?_
      refine reports_of_listField hrules hrecord fun rules hall => ?_
      refine (reports_mapM fun rule hrule => reports_ruleOf (hall rule hrule)).bind fun _ _ => ?_
      exact reports_ok _
    · exact reports_reject _
  · intro misuse heq
    cases heq

/-! ### What is loaded is a descriptor

Each part that is read has what is required of it. -/

section Loaded

variable {P : Value → Prop} {β : Type} {type source : String}

theorem use_eq_ok_iff {α : Type} {x : Except Misuse α} {a : α} : use x = .ok a ↔ x = .ok a := by
  cases x <;> simp [use]

theorem exists_record_of_use_field? {found : Option Value} (hfield : use (v.field? key) = .ok found) :
    ∃ fields, v = .record fields := by
  cases v with
  | record fields => exact ⟨fields, rfl⟩
  | _ => cases hfield

theorem exists_record_of_use_required {found : Value} (hfield : use (v.required key) = .ok found) :
    ∃ fields, v = .record fields := by
  cases v with
  | record fields => exact ⟨fields, rfl⟩
  | _ => cases hfield

theorem has_of_require (hrequire : require keys v defect = .ok ())
    (hrecord : ∃ fields, v = .record fields) : v.Has keys :=
  ⟨hrecord, fun _ => holds_of_require hrequire⟩

theorem lists_of_listField {items : List Value} (hread : listField key v = .ok items)
    (hall : ∀ item ∈ items, P item) : v.Lists P key := by
  intro given hgiven
  obtain ⟨found, hfound, hread⟩ := Outcome.bind_eq_ok_iff.1 hread
  rw [use_eq_ok_iff, hgiven] at hfound
  cases hfound
  exact ⟨items, use_eq_ok_iff.1 hread, hall⟩

theorem lists_of_mapM {f : Value → Except Error β} {items : List Value} {results : List β}
    (hread : listField key v = .ok items) (hmap : items.mapM f = .ok results)
    (hresult : ∀ item result, f item = .ok result → P item) : v.Lists P key := by
  apply lists_of_listField hread
  intro item hitem
  obtain ⟨result, -, hread⟩ := Outcome.exists_result_of_mem hmap hitem
  exact hresult item result hread

theorem has_of_parameterOf {method : String} {parameter : ParameterDecl}
    (hread : parameterOf method v = .ok parameter) : v.Has ["name", "type"] := by
  obtain ⟨_, hrequire, hread⟩ := Outcome.bind_eq_ok_iff.1 hread
  obtain ⟨_, hname, -⟩ := Outcome.bind_eq_ok_iff.1 hread
  exact has_of_require hrequire (exists_record_of_use_required hname)

theorem has_of_memberOf {member : MemberDecl} (hread : memberOf type v = .ok member) :
    v.Has ["name", "type"] := by
  obtain ⟨_, hrequire, hread⟩ := Outcome.bind_eq_ok_iff.1 hread
  obtain ⟨_, hname, -⟩ := Outcome.bind_eq_ok_iff.1 hread
  exact has_of_require hrequire (exists_record_of_use_required hname)

theorem has_of_ruleOf {rule : NamespaceRule} (hread : ruleOf v = .ok rule) : v.Has ["pattern"] := by
  obtain ⟨_, hrequire, hread⟩ := Outcome.bind_eq_ok_iff.1 hread
  obtain ⟨_, hpattern, -⟩ := Outcome.bind_eq_ok_iff.1 hread
  exact has_of_require hrequire (exists_record_of_use_required hpattern)

theorem isItem_of_itemOf {item : ItemDecl} (hread : itemOf type v = .ok item) : v.IsItem := by
  obtain ⟨_, hrequire, hread⟩ := Outcome.bind_eq_ok_iff.1 hread
  obtain ⟨found, hfound, hread⟩ := Outcome.bind_eq_ok_iff.1 hread
  refine ⟨has_of_require hrequire (exists_record_of_use_field? hfound), fun given hgiven => ?_⟩
  rw [use_eq_ok_iff, hgiven] at hfound
  cases hfound
  by_cases hnull : given = .null
  · exact .inl hnull
  · simp only [Option.getD_some] at hread
    obtain ⟨_, -, hread⟩ := Outcome.bind_eq_ok_iff.1 hread
    obtain ⟨number, hnumber, hread⟩ := Outcome.bind_eq_ok_iff.1 hread
    cases number with
    | none => cases hread
    | some n => exact .inr ⟨n, use_eq_ok_iff.1 hnumber⟩

theorem kindOf_eq_ok_iff {given : Value} {kind : TypeKind} :
    kindOf type given = .ok kind ↔ given = .text kind.text := by
  constructor
  · intro hread
    unfold kindOf at hread
    split at hread
    · rename_i found hfound
      cases hread
      obtain ⟨text, htext, hkind⟩ := Option.bind_eq_some_iff.1 hfound
      cases given with
      | text s =>
        cases htext
        have hsame := List.find?_some hkind
        rw [beq_iff_eq.1 hsame]
      | _ => cases htext
    · cases hread
  · rintro rfl
    cases kind <;> rfl

theorem isType_of_typeOf {decl : TypeDecl} (hread : typeOf v = .ok decl)
    (hkey : decl.key.isHashable = true) : v.IsType := by
  have hkeys : ∀ other, typeOf v = .ok other → other.key.isHashable = true := by
    intro other hother
    rw [hread] at hother
    cases hother
    exact hkey
  obtain ⟨_, hrequire, hread⟩ := Outcome.bind_eq_ok_iff.1 hread
  obtain ⟨found, hfound, hread⟩ := Outcome.bind_eq_ok_iff.1 hread
  obtain ⟨_, -, hread⟩ := Outcome.bind_eq_ok_iff.1 hread
  obtain ⟨kind, hkind, hread⟩ := Outcome.bind_eq_ok_iff.1 hread
  obtain ⟨_, hmemberList, hread⟩ := Outcome.bind_eq_ok_iff.1 hread
  obtain ⟨_, hmembers, hread⟩ := Outcome.bind_eq_ok_iff.1 hread
  obtain ⟨_, hitemList, hread⟩ := Outcome.bind_eq_ok_iff.1 hread
  obtain ⟨_, hitems, hread⟩ := Outcome.bind_eq_ok_iff.1 hread
  obtain ⟨_, -, hread⟩ := Outcome.bind_eq_ok_iff.1 hread
  obtain ⟨_, hparameters, hread⟩ := Outcome.bind_eq_ok_iff.1 hread
  obtain ⟨_, hbases, -⟩ := Outcome.bind_eq_ok_iff.1 hread
  exact {
    names := has_of_require hrequire (exists_record_of_use_field? hfound)
    kind := by
      intro given hgiven
      rw [use_eq_ok_iff, hgiven] at hfound
      cases hfound
      exact ⟨kind, kindOf_eq_ok_iff.1 hkind⟩
    key := hkeys
    members := lists_of_mapM hmemberList hmembers fun _ _ => has_of_memberOf
    items := lists_of_mapM hitemList hitems fun _ _ => isItem_of_itemOf
    parameters := lists_of_listField hparameters fun _ _ => trivial
    bases := lists_of_listField hbases fun _ _ => trivial }

theorem isMethod_of_methodOf {decl : MethodDecl} (hread : methodOf v = .ok decl) : v.IsMethod := by
  obtain ⟨_, hrequire, hread⟩ := Outcome.bind_eq_ok_iff.1 hread
  obtain ⟨_, hkind, hread⟩ := Outcome.bind_eq_ok_iff.1 hread
  obtain ⟨_, hlist, hread⟩ := Outcome.bind_eq_ok_iff.1 hread
  obtain ⟨_, -, hread⟩ := Outcome.bind_eq_ok_iff.1 hread
  obtain ⟨_, hparameters, -⟩ := Outcome.bind_eq_ok_iff.1 hread
  exact {
    names := has_of_require hrequire (exists_record_of_use_field? hkind)
    parameters := lists_of_mapM hlist hparameters fun _ _ => has_of_parameterOf }

theorem isType_of_foldlM {decls : List Value} {types before : List TypeDecl}
    (hread : decls.foldlM typeStep before = .ok types) : ∀ decl ∈ decls, decl.IsType := by
  induction decls generalizing before with
  | nil => exact fun _ hmem => nomatch hmem
  | cons first decls ih =>
    rw [List.foldlM_cons] at hread
    obtain ⟨middle, hfirst, hrest⟩ := Outcome.bind_eq_ok_iff.1 hread
    obtain ⟨decl, hdecl, hput⟩ := Outcome.bind_eq_ok_iff.1 hfirst
    refine List.forall_mem_cons.2 ⟨?_, ih hrest⟩
    by_cases hkey : decl.key.isHashable = true
    · exact isType_of_typeOf hdecl hkey
    · rw [if_neg hkey] at hput
      cases hput

/-- The name of a module is its own, or else that of its source. -/
theorem isTruthy_assembly_iff {found : Option Value} :
    ((found.getD .null).orElse (.text source)).isTruthy = true ↔
      source.isEmpty = false ∨ ∃ given, found = some given ∧ given.isTruthy = true := by
  have htext : (Value.text source).isTruthy = true ↔ source.isEmpty = false := by
    simp [isTruthy]
  by_cases htruthy : (found.getD .null).isTruthy = true
  · rw [orElse, if_pos htruthy]
    refine ⟨fun _ => .inr ?_, fun _ => htruthy⟩
    cases found with
    | none => cases htruthy
    | some given => exact ⟨given, rfl, htruthy⟩
  · rw [orElse, if_neg htruthy, htext]
    refine ⟨.inl, ?_⟩
    rintro (hsource | ⟨given, rfl, hgiven⟩)
    · exact hsource
    · exact absurd hgiven htruthy

theorem isDescriptor_of_ofValue {document : Value} {module : Descriptor}
    (hread : ofValue document source = .ok module) : document.IsDescriptor source := by
  unfold ofValue at hread
  split at hread
  · rename_i fields
    obtain ⟨found, hfound, hread⟩ := Outcome.bind_eq_ok_iff.1 hread
    simp only at hread
    split at hread
    · rename_i hassembly
      have hcontent := Outcome.mapError_eq_ok_iff.1 hread
      obtain ⟨_, htypeList, hcontent⟩ := Outcome.bind_eq_ok_iff.1 hcontent
      obtain ⟨_, htypes, hcontent⟩ := Outcome.bind_eq_ok_iff.1 hcontent
      obtain ⟨_, hmethodList, hcontent⟩ := Outcome.bind_eq_ok_iff.1 hcontent
      obtain ⟨_, hmethods, hcontent⟩ := Outcome.bind_eq_ok_iff.1 hcontent
      obtain ⟨_, hruleList, hcontent⟩ := Outcome.bind_eq_ok_iff.1 hcontent
      obtain ⟨_, hrules, -⟩ := Outcome.bind_eq_ok_iff.1 hcontent
      exact {
        record := ⟨fields, rfl⟩
        assembly := (isTruthy_assembly_iff.1 hassembly).imp_right fun ⟨given, heq, hgiven⟩ =>
          ⟨given, heq ▸ use_eq_ok_iff.1 hfound, hgiven⟩
        types := lists_of_listField htypeList (isType_of_foldlM htypes)
        methods := lists_of_mapM hmethodList hmethods fun _ _ => isMethod_of_methodOf
        rules := lists_of_mapM hruleList hrules fun _ _ => has_of_ruleOf }
    · cases hread
  · cases hread

end Loaded

/-! ### Descriptors are loaded -/

section Loads

variable {type source : String}

theorem require_of_has (hhas : v.Has keys) : require keys v defect = .ok () := by
  obtain ⟨-, hholds⟩ := hhas
  induction keys with
  | nil => rfl
  | cons key keys ih =>
    obtain ⟨hkey, hrest⟩ := List.forall_mem_cons.1 hholds
    rw [require, hkey]
    exact ih hrest

/-- A record with some names is read on where these are required. -/
theorem exists_of_require {α : Type} {f : Unit → Except Error α} (hhas : v.Has keys)
    (hf : ∀ fields, v = .record fields → ∃ a, f () = .ok a) :
    ∃ a, (require keys v defect >>= f) = .ok a := by
  obtain ⟨fields, hrecord⟩ := hhas.record
  rw [require_of_has hhas]
  exact hf fields hrecord

theorem exists_of_listField {α : Type} {P : Value → Prop} {f : List Value → Except Error α}
    (hlists : v.Lists P key) (hrecord : ∃ fields, v = .record fields)
    (hf : ∀ items, (∀ item ∈ items, P item) → ∃ a, f items = .ok a) :
    ∃ a, (listField key v >>= f) = .ok a := by
  obtain ⟨items, hitems, hall⟩ := exists_listField hlists hrecord
  rw [hitems]
  exact hf items hall

theorem exists_parameterOf (method : String) (hhas : v.Has ["name", "type"]) :
    ∃ parameter, parameterOf method v = .ok parameter := by
  apply exists_of_require hhas
  rintro fields rfl
  exact ⟨_, rfl⟩

theorem exists_memberOf (type : String) (hhas : v.Has ["name", "type"]) :
    ∃ member, memberOf type v = .ok member := by
  apply exists_of_require hhas
  rintro fields rfl
  exact ⟨_, rfl⟩

theorem exists_ruleOf (hhas : v.Has ["pattern"]) : ∃ rule, ruleOf v = .ok rule := by
  apply exists_of_require hhas
  rintro fields rfl
  exact ⟨_, rfl⟩

theorem exists_of_field? {α : Type} {f : Option Value → Except Error α} {fields : List (String × Value)}
    (hf : ∀ found, (Value.record fields).field? key = .ok found → ∃ a, f found = .ok a) :
    ∃ a, (use ((Value.record fields).field? key) >>= f) = .ok a :=
  hf _ rfl

theorem exists_itemOf (type : String) (hitem : v.IsItem) : ∃ item, itemOf type v = .ok item := by
  obtain ⟨hnames, hvalue⟩ := hitem
  apply exists_of_require hnames
  rintro fields rfl
  apply exists_of_field?
  intro found hfound
  cases found with
  | none => exact ⟨_, rfl⟩
  | some given =>
    rcases hvalue given hfound with rfl | ⟨n, hn⟩
    · exact ⟨_, rfl⟩
    · simp only [Option.getD_some]
      split
      · exact ⟨_, rfl⟩
      · refine Outcome.exists_bind_eq_ok ⟨_, rfl⟩ fun name => ?_
        rw [use_eq_ok_iff.2 hn]
        exact ⟨_, rfl⟩

theorem exists_typeOf (htype : v.IsType) : ∃ decl, typeOf v = .ok decl := by
  obtain ⟨hnames, hkind, -, hmembers, hitems, hparameters, hbases⟩ := htype
  apply exists_of_require hnames
  rintro fields rfl
  have hrecord : ∃ others, Value.record fields = .record others := ⟨fields, rfl⟩
  apply exists_of_field?
  intro found hfound
  refine Outcome.exists_bind_eq_ok ⟨_, rfl⟩ fun name => ?_
  have hread : ∃ kind, kindOf name.display (found.getD (.text "object")) = .ok kind := by
    cases found with
    | none => exact ⟨.object, rfl⟩
    | some given =>
      obtain ⟨kind, rfl⟩ := hkind given hfound
      exact ⟨kind, kindOf_eq_ok_iff.2 rfl⟩
  refine Outcome.exists_bind_eq_ok hread fun kind => ?_
  refine exists_of_listField hmembers hrecord fun members hall => ?_
  refine Outcome.exists_bind_eq_ok (Outcome.exists_mapM_eq_ok fun member hmember =>
    exists_memberOf _ (hall member hmember)) fun _ => ?_
  refine exists_of_listField hitems hrecord fun items hall => ?_
  refine Outcome.exists_bind_eq_ok (Outcome.exists_mapM_eq_ok fun item hitem =>
    exists_itemOf _ (hall item hitem)) fun _ => ?_
  refine Outcome.exists_bind_eq_ok ⟨_, rfl⟩ fun space => ?_
  refine exists_of_listField hparameters hrecord fun _ _ => ?_
  refine exists_of_listField hbases hrecord fun _ _ => ?_
  exact ⟨_, rfl⟩

theorem exists_methodOf (hmethod : v.IsMethod) : ∃ decl, methodOf v = .ok decl := by
  obtain ⟨hnames, hparameters⟩ := hmethod
  apply exists_of_require hnames
  rintro fields rfl
  refine Outcome.exists_bind_eq_ok ⟨_, rfl⟩ fun kind => ?_
  refine exists_of_listField hparameters ⟨fields, rfl⟩ fun parameters hall => ?_
  refine Outcome.exists_bind_eq_ok ⟨_, rfl⟩ fun name => ?_
  refine Outcome.exists_bind_eq_ok (Outcome.exists_mapM_eq_ok fun parameter hparameter =>
    exists_parameterOf _ (hall parameter hparameter)) fun _ => ?_
  exact ⟨_, rfl⟩

theorem exists_foldlM_typeStep {decls : List Value} (htypes : ∀ decl ∈ decls, decl.IsType)
    (before : List TypeDecl) : ∃ types, decls.foldlM typeStep before = .ok types := by
  induction decls generalizing before with
  | nil => exact ⟨before, rfl⟩
  | cons first decls ih =>
    obtain ⟨hfirst, hrest⟩ := List.forall_mem_cons.1 htypes
    obtain ⟨decl, hdecl⟩ := exists_typeOf hfirst
    rw [List.foldlM_cons]
    have hstep : typeStep before first = .ok (putType before decl) := by
      refine Outcome.bind_eq_ok_iff.2 ⟨decl, hdecl, ?_⟩
      rw [if_pos (hfirst.key decl hdecl)]
      rfl
    exact Outcome.exists_bind_eq_ok ⟨_, hstep⟩ fun middle => ih hrest middle

theorem exists_ofValue {document : Value} (hdescriptor : document.IsDescriptor source) :
    ∃ module, ofValue document source = .ok module := by
  obtain ⟨⟨fields, rfl⟩, hassembly, htypes, hmethods, hrules⟩ := hdescriptor
  have hrecord : ∃ others, Value.record fields = .record others := ⟨fields, rfl⟩
  apply exists_of_field?
  intro found hfound
  have htruthy : ((found.getD .null).orElse (.text source)).isTruthy = true := by
    refine isTruthy_assembly_iff.2 (hassembly.imp_right ?_)
    rintro ⟨given, hgiven, hown⟩
    rw [hfound] at hgiven
    exact ⟨given, Except.ok.inj hgiven, hown⟩
  simp only
  rw [if_pos htruthy]
  have hcontent : ∃ module,
      contentOf ((found.getD .null).orElse (.text source)) (.record fields) = .ok module := by
    refine exists_of_listField htypes hrecord fun types hall => ?_
    refine Outcome.exists_bind_eq_ok (exists_foldlM_typeStep hall []) fun _ => ?_
    refine exists_of_listField hmethods hrecord fun methods hall => ?_
    refine Outcome.exists_bind_eq_ok (Outcome.exists_mapM_eq_ok fun method hmethod =>
      exists_methodOf (hall method hmethod)) fun _ => ?_
    refine exists_of_listField hrules hrecord fun rules hall => ?_
    refine Outcome.exists_bind_eq_ok (Outcome.exists_mapM_eq_ok fun rule hrule =>
      exists_ruleOf (hall rule hrule)) fun _ => ?_
    exact ⟨_, rfl⟩
  obtain ⟨module, hmodule⟩ := hcontent
  exact ⟨module, Outcome.mapError_eq_ok_iff.2 hmodule⟩

theorem exists_ofValue_iff {document : Value} :
    (∃ module, ofValue document source = .ok module) ↔ document.IsDescriptor source :=
  ⟨fun ⟨_, hread⟩ => isDescriptor_of_ofValue hread, exists_ofValue⟩

end Loads

end Descriptor

end ScriptBridge
