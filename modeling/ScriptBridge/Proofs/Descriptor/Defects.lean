import ScriptBridge.Proofs.Descriptor.Declarations
import ScriptBridge.Proofs.Number.Numerals

/-!
# What is wrong with a document

The defects of a document, in the order in which they are found, and the module that it declares are each
read off the whole document. Loading reports the first of the defects; if there are none, it gives the
module.
-/

namespace ScriptBridge

/-! ### What a record holds -/

namespace Value

def part? (key : String) : Value → Option Value
  | .record fields => (fields.find? (·.1 == key)).map (·.2)
  | _ => none

def part (key : String) (v : Value) : Value :=
  (v.part? key).getD .null

def lacks (key : String) (v : Value) : Bool :=
  (v.part? key).isNone

/-- The elements of what a record holds under a name, none if it holds nothing there. -/
def entries (key : String) (v : Value) : List Value :=
  match (v.part? key).map elements with
  | some (.ok items) => items
  | _ => []

def IsRecord (v : Value) : Prop :=
  ∃ fields, v = .record fields

/-- What stands under some names can be shown in a message or a key. -/
def Shows (keys : List String) (v : Value) : Prop :=
  ∀ key ∈ keys, (v.part key).Short

/-- Null, a flag, a whole or finite number, or a text. -/
def IsItemValue : Value → Prop
  | .null => True
  | .bool _ => True
  | .int _ => True
  | .double (.finite _ _ _) => True
  | .text _ => True
  | _ => False

structure ShapedItem (v : Value) : Prop where
  record : v.IsRecord
  shown : v.Shows ["name"]
  value : (v.part "value").IsItemValue

structure ShapedType (v : Value) : Prop where
  record : v.IsRecord
  shown : v.Shows ["kind", "namespace"]
  name : ∀ given, v.part? "name" = some given → given.isText = true
  members : v.Lists IsRecord "members"
  items : v.Lists ShapedItem "items"
  parameters : v.Lists (fun parameter => parameter.isText = true) "type_params"
  bases : v.Lists (fun base => base.isText = true) "extends"

structure ShapedMethod (v : Value) : Prop where
  record : v.IsRecord
  shown : v.Shows ["kind", "name"]
  parameters : v.Lists IsRecord "args"

/-- A record whose lists are lists of records, as those of a descriptor are, though any of the names that
are required may be missing. What messages and keys tell of it can be shown. -/
structure Shaped (document : Value) : Prop where
  record : document.IsRecord
  shown : document.Shows ["assembly"]
  types : document.Lists ShapedType "types"
  methods : document.Lists ShapedMethod "methods"
  rules : document.Lists IsRecord "namespace_rules"

section Record

variable {v : Value} {P : Value → Prop} {key : String}

theorem IsRecord.field?_eq (hrecord : v.IsRecord) (key : String) :
    v.field? key = .ok (v.part? key) := by
  obtain ⟨fields, rfl⟩ := hrecord
  rfl

theorem IsRecord.required_eq (hrecord : v.IsRecord) (key : String) :
    v.required key = .ok (v.part key) := by
  obtain ⟨fields, rfl⟩ := hrecord
  rfl

theorem IsRecord.holds_eq (hrecord : v.IsRecord) (key : String) :
    v.holds key = .ok (!v.lacks key) := by
  obtain ⟨fields, rfl⟩ := hrecord
  rw [lacks, part?, Option.isNone_map, Option.not_isNone, List.isSome_find?]
  rfl

theorem IsRecord.listField_eq (hrecord : v.IsRecord) (hlists : v.Lists P key) :
    Descriptor.listField key v = .ok (v.entries key) := by
  rw [Descriptor.listField, hrecord.field?_eq, entries]
  cases hpart : v.part? key with
  | none => rfl
  | some given =>
    obtain ⟨items, hitems, -⟩ := hlists given (by rw [hrecord.field?_eq, hpart])
    rw [Option.map_some, hitems]
    exact congrArg Descriptor.use hitems

theorem Lists.of_mem_entries (hlists : v.Lists P key) {entry : Value} (hentry : entry ∈ v.entries key) :
    P entry := by
  unfold entries at hentry
  split at hentry
  · rename_i items hitems
    obtain ⟨given, hgiven, helements⟩ := Option.map_eq_some_iff.1 hitems
    cases v with
    | record fields =>
      obtain ⟨others, hothers, hall⟩ := hlists given (congrArg Except.ok hgiven)
      rw [helements] at hothers
      cases hothers
      exact hall entry hentry
    | _ => cases hgiven
  · cases hentry

theorem part?_of_field? {given : Value} (hfield : v.field? key = .ok (some given)) :
    v.part? key = some given := by
  cases v with
  | record fields => exact Except.ok.inj hfield
  | _ => cases hfield

theorem Lists.of_lacks (hlacks : v.part? key = none) : v.Lists P key := by
  intro given hgiven
  rw [part?_of_field? hgiven] at hlacks
  cases hlacks

theorem Lists.of_list {items : List Value} (hpart : v.part? key = some (.list items))
    (hall : ∀ item ∈ items, P item) : v.Lists P key := by
  intro given hgiven
  rw [part?_of_field? hgiven] at hpart
  cases hpart
  exact ⟨items, rfl, hall⟩

end Record

end Value

/-! ### Defects -/

namespace Descriptor

open Value

/-- A declaration that lacks one of some names has a defect. -/
def missing (keys : List String) (defect : Defect) (v : Value) : List Defect :=
  if keys.any fun key => v.lacks key then [defect] else []

/-- The name of a declaration, as messages show it. -/
def label (v : Value) : String :=
  (v.part "name").display

/-- An item may have no value, or a value that is a number or the text of one. -/
def valueDefects (type : String) (v : Value) : List Defect :=
  match v.part "value" with
  | .text number =>
    if (IntegerLiteral.value? number).isNone then
      [.invalidItemValue type (label v) (Text.quoted number)]
    else []
  | _ => []

def itemDefects (type : String) (v : Value) : List Defect :=
  missing ["name"] (.malformedItem type) v ++ valueDefects type v

def givenKind (v : Value) : Value :=
  (v.part? "kind").getD (.text "object")

def kindDefects (v : Value) : List Defect :=
  if givenKind v = .text "object" ∨ givenKind v = .text "enum" then []
  else [.unknownKind (givenKind v).display (label v)]

def typeDefects (v : Value) : List Defect :=
  missing ["name"] .unnamedType v ++ (kindDefects v ++
    ((v.entries "members").flatMap (missing ["name", "type"] (.malformedMember (label v))) ++
      (v.entries "items").flatMap (itemDefects (label v))))

def methodDefects (v : Value) : List Defect :=
  missing ["name"] .unnamedMethod v ++
    (v.entries "args").flatMap (missing ["name", "type"] (.malformedArgument (label v)))

/-- The defects of what a document declares, in order. -/
def defects (document : Value) : List Defect :=
  (document.entries "types").flatMap typeDefects ++
    ((document.entries "methods").flatMap methodDefects ++
      (document.entries "namespace_rules").flatMap (missing ["pattern"] .ruleWithoutPattern))

/-! ### Declarations -/

def parameterFrom (v : Value) : ParameterDecl where
  name := v.part "name"
  type := v.part "type"

def memberFrom (v : Value) : MemberDecl where
  name := v.part "name"
  type := v.part "type"
  isStatic := (v.part "static").isTruthy
  isComputed := (v.part "computed").isTruthy

def itemFrom (v : Value) : ItemDecl where
  name := v.part "name"
  value := (itemValue? (v.part "value")).toOption.join

def kindFrom (v : Value) : TypeKind :=
  if givenKind v = .text "enum" then .enumeration else .object

/-- The type that a record declares. An enumeration is a value type unless it says otherwise. -/
def typeFrom (v : Value) : TypeDecl where
  kind := kindFrom v
  space := (v.part "namespace").orElse (.text "")
  name := v.part "name"
  parameters := v.entries "type_params"
  members := (v.entries "members").map memberFrom
  items := (v.entries "items").map itemFrom
  bases := v.entries "extends"
  isValueType := ((v.part? "value_type").getD (.bool (kindFrom v == .enumeration))).isTruthy

def methodFrom (v : Value) : MethodDecl where
  kind := Text.lowerText ((v.part? "kind").getD (.text "")).display
  space := (v.part "namespace").orElse (.text "")
  owner := (v.part? "owner").getD (.text "")
  name := v.part "name"
  parameters := (v.entries "args").map parameterFrom
  returns := (v.part "returns").orElse (.text "void")

def ruleFrom (v : Value) : NamespaceRule where
  pattern := v.part "pattern"
  replacement := (v.part? "replacement").getD (.text "")

def contentFrom (assembly document : Value) : Descriptor where
  assembly
  types := TypeDecl.standing ((document.entries "types").map typeFrom)
  methods := (document.entries "methods").map methodFrom
  rules := (document.entries "namespace_rules").map ruleFrom

/-! ### The first defect is reported -/

/-- The first of some defects is reported; if there are none, there is a result. -/
def judged {α : Type} (defects : List Defect) (result : α) : Except Error α :=
  match defects with
  | [] => .ok result
  | first :: _ => .error (.rejected [] first)

section Judged

variable {α β : Type} {first rest : List Defect} {x : Except Error α} {a : α} {b : β}
  {f : α → Except Error β}

theorem bind_eq_judged (hx : x = judged first a) (hf : f a = judged rest b) :
    (x >>= f) = judged (first ++ rest) b := by
  subst hx
  cases first with
  | nil => exact hf
  | cons defect more => rfl

theorem bind_eq_judged_of_ok (hx : x = judged first a) (hf : f a = .ok b) :
    (x >>= f) = judged first b := by
  have hjudged : (x >>= f) = judged (first ++ []) b := bind_eq_judged hx hf
  rwa [List.append_nil] at hjudged

theorem ok_bind_eq_judged (hx : x = .ok a) (hf : f a = judged rest b) : (x >>= f) = judged rest b := by
  rw [hx]
  exact hf

theorem mapM_eq_judged {g : α → List Defect} {h : α → β} {xs : List α}
    (hf : ∀ x ∈ xs, f x = judged (g x) (h x)) :
    xs.mapM f = judged (xs.flatMap g) (xs.map h) := by
  induction xs with
  | nil => rfl
  | cons x xs ih =>
    obtain ⟨hfirst, hrest⟩ := List.forall_mem_cons.1 hf
    rw [List.mapM_cons, List.flatMap_cons, List.map_cons]
    exact bind_eq_judged hfirst (bind_eq_judged_of_ok (ih hrest) rfl)

end Judged

section Parts

variable {v : Value}

theorem field_eq (hrecord : v.IsRecord) (key : String) : use (v.field? key) = .ok (v.part? key) := by
  rw [hrecord.field?_eq]
  rfl

theorem required_eq (hrecord : v.IsRecord) (key : String) :
    use (v.required key) = .ok (v.part key) := by
  rw [hrecord.required_eq]
  rfl

theorem flagField_eq (hrecord : v.IsRecord) (key : String) :
    flagField key v = .ok (v.part key).isTruthy := by
  rw [flagField, field_eq hrecord, part]
  cases v.part? key <;> rfl

theorem require_eq (hrecord : v.IsRecord) (keys : List String) (defect : Defect) :
    require keys v defect = judged (missing keys defect v) () := by
  induction keys with
  | nil => rfl
  | cons key keys ih =>
    rw [require, hrecord.holds_eq, missing, List.any_cons]
    cases v.lacks key with
    | true => rfl
    | false => exact ih

theorem parameterOf_eq (hrecord : v.IsRecord) (method : String) :
    parameterOf method v =
      judged (missing ["name", "type"] (.malformedArgument method) v) (parameterFrom v) := by
  rw [parameterOf]
  refine bind_eq_judged_of_ok (require_eq hrecord _ _) ?_
  rw [required_eq hrecord, required_eq hrecord]
  rfl

theorem memberOf_eq (hrecord : v.IsRecord) (type : String) :
    memberOf type v =
      judged (missing ["name", "type"] (.malformedMember type) v) (memberFrom v) := by
  rw [memberOf]
  refine bind_eq_judged_of_ok (require_eq hrecord _ _) ?_
  rw [required_eq hrecord, required_eq hrecord, flagField_eq hrecord, flagField_eq hrecord]
  rfl

theorem itemOf_eq (hshaped : v.ShapedItem) (type : String) :
    itemOf type v = judged (itemDefects type v) (itemFrom v) := by
  obtain ⟨hrecord, -, hvalue⟩ := hshaped
  rw [itemOf, itemDefects]
  refine bind_eq_judged (require_eq hrecord _ _) ?_
  refine ok_bind_eq_judged (field_eq hrecord _) ?_
  rw [required_eq hrecord, valueDefects, itemFrom]
  have hpart : (v.part? "value").getD .null = v.part "value" := rfl
  rw [hpart]
  -- Only a text can be refused: what else an item may have is a number, or stands for none.
  generalize v.part "value" = given at hvalue
  cases given with
  | null => rfl
  | bool b => rfl
  | int n => rfl
  | double x =>
    cases x with
    | finite => rfl
    | _ => cases hvalue
  | text number =>
    simp only [itemValue?]
    cases IntegerLiteral.value? number <;> rfl
  | list items => cases hvalue
  | record fields => cases hvalue

theorem kindOf_eq : kindOf (label v) (givenKind v) = judged (kindDefects v) (kindFrom v) := by
  rw [kindDefects, kindFrom]
  by_cases hobject : givenKind v = .text "object"
  · rw [hobject]
    rfl
  by_cases henum : givenKind v = .text "enum"
  · rw [henum]
    rfl
  · rw [if_neg (not_or.2 ⟨hobject, henum⟩)]
    unfold kindOf
    split
    · rename_i kind hkind
      have hread : kindOf (label v) (givenKind v) = .ok kind := by
        rw [kindOf, hkind]
      cases kind with
      | object => exact absurd (kindOf_eq_ok_iff.1 hread) hobject
      | enumeration => exact absurd (kindOf_eq_ok_iff.1 hread) henum
    · rfl

theorem typeOf_eq (hshaped : v.ShapedType) : typeOf v = judged (typeDefects v) (typeFrom v) := by
  obtain ⟨hrecord, -, -, hmembers, hitems, hparameters, hbases⟩ := hshaped
  rw [typeOf, typeDefects]
  refine bind_eq_judged (require_eq hrecord _ _) ?_
  refine ok_bind_eq_judged (field_eq hrecord _) ?_
  refine ok_bind_eq_judged (required_eq hrecord _) ?_
  refine bind_eq_judged kindOf_eq ?_
  refine ok_bind_eq_judged (hrecord.listField_eq hmembers) ?_
  refine bind_eq_judged (mapM_eq_judged fun member hmember =>
    memberOf_eq (hmembers.of_mem_entries hmember) _) ?_
  refine ok_bind_eq_judged (hrecord.listField_eq hitems) ?_
  refine bind_eq_judged_of_ok (mapM_eq_judged fun item hitem =>
    itemOf_eq (hitems.of_mem_entries hitem) _) ?_
  rw [hrecord.listField_eq hparameters, hrecord.listField_eq hbases, field_eq hrecord,
    field_eq hrecord]
  rfl

theorem methodOf_eq (hshaped : v.ShapedMethod) :
    methodOf v = judged (methodDefects v) (methodFrom v) := by
  obtain ⟨hrecord, -, hparameters⟩ := hshaped
  rw [methodOf, methodDefects]
  refine bind_eq_judged (require_eq hrecord _ _) ?_
  refine ok_bind_eq_judged (field_eq hrecord _) ?_
  refine ok_bind_eq_judged (hrecord.listField_eq hparameters) ?_
  refine ok_bind_eq_judged (required_eq hrecord _) ?_
  refine bind_eq_judged_of_ok (mapM_eq_judged fun parameter hparameter =>
    parameterOf_eq (hparameters.of_mem_entries hparameter) _) ?_
  rw [field_eq hrecord, field_eq hrecord, field_eq hrecord]
  rfl

theorem ruleOf_eq (hrecord : v.IsRecord) :
    ruleOf v = judged (missing ["pattern"] .ruleWithoutPattern v) (ruleFrom v) := by
  rw [ruleOf]
  refine bind_eq_judged_of_ok (require_eq hrecord _ _) ?_
  rw [required_eq hrecord, field_eq hrecord]
  rfl

theorem isHashable_key_typeFrom (hshaped : v.ShapedType) : (typeFrom v).key.isHashable = true := by
  rw [TypeDecl.key]
  split
  · rfl
  · change (v.part "name").isHashable = true
    rw [part]
    -- A name that is missing counts as null, which can be a key.
    cases hname : v.part? "name" with
    | none => rfl
    | some given =>
      obtain ⟨name, rfl⟩ := exists_text_of_isText (hshaped.name given hname)
      rfl

theorem isText_key_typeFrom (hshaped : v.ShapedType) (hname : v.lacks "name" = false) :
    (typeFrom v).key.isText = true := by
  rw [TypeDecl.key]
  split
  · rfl
  · obtain ⟨given, hgiven⟩ := Option.isSome_iff_exists.1 (Option.isNone_eq_false_iff.1 hname)
    change (v.part "name").isText = true
    rw [part, hgiven]
    exact hshaped.name given hgiven

theorem foldlM_typeStep_eq {decls : List Value} (hshaped : ∀ decl ∈ decls, decl.ShapedType)
    (before : List TypeDecl) :
    decls.foldlM typeStep before =
      judged (decls.flatMap typeDefects) ((decls.map typeFrom).foldl putType before) := by
  induction decls generalizing before with
  | nil => rfl
  | cons decl decls ih =>
    obtain ⟨hfirst, hrest⟩ := List.forall_mem_cons.1 hshaped
    have hstep : typeStep before decl = judged (typeDefects decl) (putType before (typeFrom decl)) := by
      refine bind_eq_judged_of_ok (typeOf_eq hfirst) ?_
      rw [if_pos (isHashable_key_typeFrom hfirst)]
      rfl
    rw [List.foldlM_cons, List.flatMap_cons, List.map_cons, List.foldl_cons]
    exact bind_eq_judged hstep (ih hrest _)

theorem contentOf_eq {document : Value} (hshaped : document.Shaped) (assembly : Value) :
    contentOf assembly document = judged (defects document) (contentFrom assembly document) := by
  obtain ⟨hrecord, -, htypes, hmethods, hrules⟩ := hshaped
  rw [contentOf, defects]
  refine ok_bind_eq_judged (hrecord.listField_eq htypes) ?_
  refine bind_eq_judged (foldlM_typeStep_eq (fun _ => htypes.of_mem_entries) []) ?_
  refine ok_bind_eq_judged (hrecord.listField_eq hmethods) ?_
  refine bind_eq_judged (mapM_eq_judged fun _ hmethod =>
    methodOf_eq (hmethods.of_mem_entries hmethod)) ?_
  refine ok_bind_eq_judged (hrecord.listField_eq hrules) ?_
  exact bind_eq_judged_of_ok (mapM_eq_judged fun _ hrule => ruleOf_eq (hrules.of_mem_entries hrule)) rfl

/-- Without a name for the module nothing of a document is read. -/
theorem ofValue_eq {document : Value} (hshaped : document.Shaped) (source : String) {assembly : Value}
    (hassembly : (document.part "assembly").orElse (.text source) = assembly) :
    ofValue document source =
      if assembly.isTruthy then
        (judged (defects document) (contentFrom assembly document)).mapError
          (Error.within assembly.display)
      else reject .noAssembly := by
  have hcontent := contentOf_eq hshaped assembly
  obtain ⟨fields, rfl⟩ := hshaped.record
  subst hassembly
  rw [← hcontent]
  rfl

end Parts

/-! ### Documents at fault -/

/-- The texts of whole numbers that are read: they have no more digits than the limit. -/
def IsReadable (number : String) : Prop :=
  ∃ digits value, IntegerLiteral.Denotes number digits value ∧
    IntegerLiteral.digitCount digits ≤ IntegerLiteral.digitLimit

def ItemAtFault (isNumber : String → Prop) (v : Value) : Prop :=
  v.lacks "name" = true ∨ ∃ number, v.part "value" = .text number ∧ ¬isNumber number

def TypeAtFault (isNumber : String → Prop) (v : Value) : Prop :=
  v.lacks "name" = true ∨ (givenKind v ≠ .text "object" ∧ givenKind v ≠ .text "enum") ∨
    (∃ member ∈ v.entries "members", member.lacks "name" = true ∨ member.lacks "type" = true) ∨
    ∃ item ∈ v.entries "items", ItemAtFault isNumber item

def MethodAtFault (v : Value) : Prop :=
  v.lacks "name" = true ∨
    ∃ parameter ∈ v.entries "args", parameter.lacks "name" = true ∨ parameter.lacks "type" = true

/-- Something is wrong with a document or with what it declares, whatever is taken for the text of a
number. -/
def AtFault (isNumber : String → Prop) (document : Value) : Prop :=
  (document.part "assembly").isTruthy = false ∨
    (∃ type ∈ document.entries "types", TypeAtFault isNumber type) ∨
    (∃ method ∈ document.entries "methods", MethodAtFault method) ∨
    ∃ rule ∈ document.entries "namespace_rules", rule.lacks "pattern" = true

/-- What loading a document may report, in order. -/
def refusals (document : Value) : List Error :=
  let assembly := document.part "assembly"
  if assembly.isTruthy then (defects document).map (.rejected [assembly.display])
  else [.rejected [] .noAssembly]

section AtFault

variable {v document : Value} {type : String}

theorem isReadable_iff {number : String} :
    IsReadable number ↔ (IntegerLiteral.value? number).isSome = true := by
  rw [Option.isSome_iff_exists]
  simp only [IntegerLiteral.value?_eq_some_iff]
  exact exists_comm

theorem append_ne_nil_iff {first rest : List Defect} :
    first ++ rest ≠ [] ↔ first ≠ [] ∨ rest ≠ [] := by
  rw [Ne, List.append_eq_nil_iff, not_and_or]

theorem flatMap_ne_nil_iff {f : Value → List Defect} {xs : List Value} {P : Value → Prop}
    (hf : ∀ x, f x ≠ [] ↔ P x) : xs.flatMap f ≠ [] ↔ ∃ x ∈ xs, P x := by
  rw [Ne, List.flatMap_eq_nil_iff]
  push Not
  exact exists_congr fun x => and_congr_right fun _ => hf x

theorem missing_ne_nil_iff {keys : List String} {defect : Defect} :
    missing keys defect v ≠ [] ↔ ∃ key ∈ keys, v.lacks key = true := by
  rw [missing, ← List.any_eq_true]
  split <;> simp_all

theorem missing_one_ne_nil_iff {key : String} {defect : Defect} :
    missing [key] defect v ≠ [] ↔ v.lacks key = true := by
  simp [missing_ne_nil_iff]

theorem missing_two_ne_nil_iff {key other : String} {defect : Defect} :
    missing [key, other] defect v ≠ [] ↔ v.lacks key = true ∨ v.lacks other = true := by
  simp [missing_ne_nil_iff]

theorem valueDefects_ne_nil_iff : valueDefects type v ≠ [] ↔
    ∃ number, v.part "value" = .text number ∧ ¬IsReadable number := by
  rw [valueDefects]
  cases v.part "value" with
  | text number =>
    simp [isReadable_iff]
  | _ => simp

theorem itemDefects_ne_nil_iff : itemDefects type v ≠ [] ↔ ItemAtFault IsReadable v := by
  rw [itemDefects, append_ne_nil_iff, missing_one_ne_nil_iff, valueDefects_ne_nil_iff]
  rfl

theorem kindDefects_ne_nil_iff :
    kindDefects v ≠ [] ↔ givenKind v ≠ .text "object" ∧ givenKind v ≠ .text "enum" := by
  rw [kindDefects, ← not_or]
  split <;> simp_all

theorem typeDefects_ne_nil_iff : typeDefects v ≠ [] ↔ TypeAtFault IsReadable v := by
  rw [typeDefects, append_ne_nil_iff, append_ne_nil_iff, append_ne_nil_iff, missing_one_ne_nil_iff,
    kindDefects_ne_nil_iff, flatMap_ne_nil_iff fun _ => missing_two_ne_nil_iff,
    flatMap_ne_nil_iff fun _ => itemDefects_ne_nil_iff]
  rfl

theorem methodDefects_ne_nil_iff : methodDefects v ≠ [] ↔ MethodAtFault v := by
  rw [methodDefects, append_ne_nil_iff, missing_one_ne_nil_iff,
    flatMap_ne_nil_iff fun _ => missing_two_ne_nil_iff]
  rfl

theorem refusals_ne_nil_iff : refusals document ≠ [] ↔ AtFault IsReadable document := by
  have hdefects : defects document ≠ [] ↔
      (∃ type ∈ document.entries "types", TypeAtFault IsReadable type) ∨
        (∃ method ∈ document.entries "methods", MethodAtFault method) ∨
        ∃ rule ∈ document.entries "namespace_rules", rule.lacks "pattern" = true := by
    rw [defects, append_ne_nil_iff, append_ne_nil_iff, flatMap_ne_nil_iff fun _ => typeDefects_ne_nil_iff,
      flatMap_ne_nil_iff fun _ => methodDefects_ne_nil_iff,
      flatMap_ne_nil_iff fun _ => missing_one_ne_nil_iff]
  rw [refusals, AtFault, ← hdefects]
  cases (document.part "assembly").isTruthy <;> simp

theorem exists_of_mem_refusals {refusal : Error} (hmem : refusal ∈ refusals document) :
    ∃ path defect, refusal = .rejected path defect := by
  unfold refusals at hmem
  dsimp only at hmem
  split at hmem
  · obtain ⟨defect, -, rfl⟩ := List.mem_map.1 hmem
    exact ⟨_, defect, rfl⟩
  · exact ⟨_, _, List.mem_singleton.1 hmem⟩

end AtFault

/-! ### Documents without a fault -/

/-- A module has what a document declares: its methods and rules in order, and for each key of its types
the last of that key, at the place of the first. -/
structure Declares (document : Value) (module : Descriptor) : Prop where
  assembly : module.assembly = document.part "assembly"
  methods : module.methods = (document.entries "methods").map methodFrom
  rules : module.rules = (document.entries "namespace_rules").map ruleFrom
  keys : module.types.map (·.key) =
    ((document.entries "types").map fun type => (typeFrom type).key).eraseDups
  last : ∀ decl ∈ module.types, ∃ before type after,
    document.entries "types" = before ++ type :: after ∧ decl = typeFrom type ∧
      ∀ later ∈ after, (typeFrom later).key ≠ decl.key

section Loads

variable {document : Value}

theorem ofValue_eq_of_truthy (hshaped : document.Shaped)
    (hassembly : (document.part "assembly").isTruthy = true) :
    ofValue document "" =
      (judged (defects document) (contentFrom (document.part "assembly") document)).mapError
        (Error.within (document.part "assembly").display) := by
  have hown : (document.part "assembly").orElse (.text "") = document.part "assembly" := if_pos hassembly
  rw [ofValue_eq hshaped "" hown, if_pos hassembly]

theorem ofValue_eq_of_falsy (hshaped : document.Shaped)
    (hassembly : (document.part "assembly").isTruthy = false) :
    ofValue document "" = .error (.rejected [] .noAssembly) := by
  have hnone : (document.part "assembly").orElse (.text "") = .text "" := by
    rw [orElse, if_neg (Bool.eq_false_iff.1 hassembly)]
  rw [ofValue_eq hshaped "" hnone]
  rfl

theorem fault?_ofValue (hshaped : document.Shaped) :
    Outcome.fault? (ofValue document "") = (refusals document).head? := by
  rw [refusals]
  cases hassembly : (document.part "assembly").isTruthy with
  | false =>
    rw [ofValue_eq_of_falsy hshaped hassembly]
    rfl
  | true =>
    rw [ofValue_eq_of_truthy hshaped hassembly]
    cases defects document <;> rfl

theorem declares_contentFrom (hshaped : document.Shaped)
    (hfine : ∀ type ∈ document.entries "types", type.lacks "name" = false) :
    Declares document (contentFrom (document.part "assembly") document) := by
  have htexts : ∀ decl ∈ (document.entries "types").map typeFrom, decl.key.isText = true := by
    intro decl hdecl
    obtain ⟨type, htype, rfl⟩ := List.mem_map.1 hdecl
    exact isText_key_typeFrom (hshaped.types.of_mem_entries htype) (hfine type htype)
  refine ⟨rfl, rfl, rfl, ?_, fun decl hdecl => ?_⟩
  · rw [contentFrom, TypeDecl.map_key_standing htexts, List.map_map]
    rfl
  · obtain ⟨before, after, hsplit, hafter⟩ := TypeDecl.exists_split_of_mem_standing hdecl
    obtain ⟨first, rest, hentries, hfirst, hrest⟩ := List.map_eq_append_iff.1 hsplit
    obtain ⟨type, others, hothers, htype, hmap⟩ := List.map_eq_cons_iff.1 hrest
    refine ⟨first, type, others, by rw [hentries, hothers], htype.symm, fun later hlater heq => ?_⟩
    have hdiffers := hafter (typeFrom later) (hmap ▸ List.mem_map_of_mem hlater)
    rw [heq, Value.isSameKey_eq_false_iff] at hdiffers
    exact hdiffers rfl

theorem exists_ofValue_declares (hshaped : document.Shaped) (hfine : ¬AtFault IsReadable document) :
    ∃ module, ofValue document "" = .ok module ∧ Declares document module := by
  have hassembly : (document.part "assembly").isTruthy = true :=
    Bool.not_eq_false _ ▸ fun hfalsy => hfine (.inl hfalsy)
  have hnames : ∀ type ∈ document.entries "types", type.lacks "name" = false := by
    intro type htype
    exact Bool.eq_false_iff.2 fun hlacks => hfine (.inr (.inl ⟨type, htype, .inl hlacks⟩))
  have hnone : defects document = [] := by
    have hrefusals := not_not.1 (mt refusals_ne_nil_iff.1 hfine)
    rw [refusals, if_pos hassembly] at hrefusals
    exact List.map_eq_nil_iff.1 hrefusals
  refine ⟨_, ?_, declares_contentFrom hshaped hnames⟩
  rw [ofValue_eq_of_truthy hshaped hassembly, hnone]
  rfl

/-- A document of the right shape is refused if and only if something is wrong with it, for the first
thing that is. Else it is read as what it declares. -/
theorem refused_or_declared (hshaped : document.Shaped) :
    ((∃ path defect, ofValue document "" = .error (.rejected path defect)) ↔
        AtFault IsReadable document) ∧
      Outcome.fault? (ofValue document "") = (refusals document).head? ∧
      (¬AtFault IsReadable document →
        ∃ module, ofValue document "" = .ok module ∧ Declares document module) := by
  have hfirst := fault?_ofValue hshaped
  refine ⟨⟨?_, fun hfault => ?_⟩, hfirst, exists_ofValue_declares hshaped⟩
  · rintro ⟨path, defect, hrefused⟩
    rw [hrefused] at hfirst
    refine refusals_ne_nil_iff.1 fun hnone => ?_
    rw [hnone] at hfirst
    cases hfirst
  · obtain ⟨refusal, rest, hrefusals⟩ := List.exists_cons_of_ne_nil (refusals_ne_nil_iff.2 hfault)
    obtain ⟨path, defect, rfl⟩ := exists_of_mem_refusals (hrefusals ▸ List.mem_cons_self)
    rw [hrefusals] at hfirst
    cases hread : ofValue document "" with
    | ok module =>
      rw [hread] at hfirst
      cases hfirst
    | error error =>
      rw [hread] at hfirst
      cases hfirst
      exact ⟨path, defect, rfl⟩

end Loads

/-! ### Grain and sacks -/

def ryeItem (value : Value) : Value :=
  .record [("name", .text "Rye"), ("value", value)]

def grainType (value : Value) : Value :=
  .record [("kind", .text "enum"), ("name", .text "Grain"), ("items", .list [ryeItem value])]

def sackType : Value :=
  .record [("name", .text "Sack")]

def millDocument (types : List Value) : Value :=
  .record [("assembly", .text "Mill"), ("types", .list types)]

theorem shaped_grainType {value : Value} (hvalue : value.IsItemValue) : (grainType value).ShapedType where
  record := ⟨_, rfl⟩
  shown := List.forall_mem_cons.2 ⟨.text "enum", List.forall_mem_singleton.2 .null⟩
  name given hgiven := by
    cases hgiven
    rfl
  members := .of_lacks rfl
  items := .of_list rfl (List.forall_mem_singleton.2
    ⟨⟨_, rfl⟩, List.forall_mem_singleton.2 (.text "Rye"), hvalue⟩)
  parameters := .of_lacks rfl
  bases := .of_lacks rfl

theorem shaped_sackType : sackType.ShapedType where
  record := ⟨_, rfl⟩
  shown := List.forall_mem_cons.2 ⟨.null, List.forall_mem_singleton.2 .null⟩
  name given hgiven := by
    cases hgiven
    rfl
  members := .of_lacks rfl
  items := .of_lacks rfl
  parameters := .of_lacks rfl
  bases := .of_lacks rfl

theorem shaped_millDocument {types : List Value} (htypes : ∀ type ∈ types, type.ShapedType) :
    (millDocument types).Shaped where
  record := ⟨_, rfl⟩
  shown := List.forall_mem_singleton.2 (.text "Mill")
  types := .of_list rfl htypes
  methods := .of_lacks rfl
  rules := .of_lacks rfl

/-- The grain is declared twice, and it stands where it is declared first. -/
theorem declared_mill :
    let document := millDocument [grainType (.int 1), sackType, grainType (.text " 7 ")]
    document.Shaped ∧ ∃ module, ofValue document "" = .ok module ∧ Declares document module ∧
      module.types.map (·.key) = [.text "Grain", .text "Sack"] := by
  intro document
  have hshaped : document.Shaped := by
    apply shaped_millDocument
    simp only [List.forall_mem_cons]
    exact ⟨shaped_grainType trivial, shaped_sackType, shaped_grainType trivial,
      fun _ hmem => nomatch hmem⟩
  have hfine : ¬AtFault IsReadable document := by
    refine fun hfault => refusals_ne_nil_iff.2 hfault ?_
    decide +kernel
  obtain ⟨-, -, hread⟩ := refused_or_declared hshaped
  obtain ⟨module, hmodule, hdeclares⟩ := hread hfine
  refine ⟨hshaped, module, hmodule, hdeclares, ?_⟩
  rw [hdeclares.keys]
  decide +kernel

/-- The text of the number one, with one digit too many. -/
def paddedNumber : String :=
  String.ofList (IntegerLiteral.paddedOne IntegerLiteral.digitLimit)

theorem denotes_paddedNumber :
    IntegerLiteral.Denotes paddedNumber (IntegerLiteral.paddedOne IntegerLiteral.digitLimit) (1 : Nat) :=
  .of_numeral (IntegerLiteral.numeral_paddedOne _)

theorem value?_paddedNumber : IntegerLiteral.value? paddedNumber = none := by
  rw [denotes_paddedNumber.value?_eq, IntegerLiteral.digitCount_paddedOne]
  exact if_pos (Nat.lt_succ_self _)

theorem shaped_grain (number : String) : (millDocument [grainType (.text number)]).Shaped :=
  shaped_millDocument (List.forall_mem_singleton.2 (shaped_grainType trivial))

theorem not_atFault_grain {isNumber : String → Prop} {number : String} (hnumber : isNumber number) :
    ¬AtFault isNumber (millDocument [grainType (.text number)]) := by
  rintro (hassembly | ⟨type, htype, hfault⟩ | ⟨method, hmethod, -⟩ | ⟨rule, hrule, -⟩)
  · cases hassembly
  · rw [List.mem_singleton.1 htype] at hfault
    rcases hfault with hname | ⟨-, hkind⟩ | ⟨member, hmember, -⟩ | ⟨item, hitem, hfault⟩
    · cases hname
    · exact hkind rfl
    · cases hmember
    · rw [List.mem_singleton.1 hitem] at hfault
      rcases hfault with hname | ⟨other, hother, hnone⟩
      · cases hname
      · cases hother
        exact hnone hnumber
  · cases hmethod
  · cases hrule

theorem typeDefects_grainType (value : Value) :
    typeDefects (grainType value) = valueDefects "Grain" (ryeItem value) := by
  have hname : missing ["name"] .unnamedType (grainType value) = [] := rfl
  have hkind : kindDefects (grainType value) = [] := rfl
  have hmembers : (grainType value).entries "members" = [] := rfl
  have hitems : (grainType value).entries "items" = [ryeItem value] := rfl
  have hitem : missing ["name"] (.malformedItem "Grain") (ryeItem value) = [] := rfl
  have hlabel : label (grainType value) = "Grain" := rfl
  rw [typeDefects, hname, hkind, hmembers, hitems, hlabel, List.flatMap_singleton, itemDefects, hitem]
  rfl

theorem ofValue_grain {number : String} (hunread : IntegerLiteral.value? number = none) :
    ofValue (millDocument [grainType (.text number)]) "" =
      .error (.rejected ["Mill"] (.invalidItemValue "Grain" "Rye" (Text.quoted number))) := by
  have hvalue : valueDefects "Grain" (ryeItem (.text number)) =
      [.invalidItemValue "Grain" "Rye" (Text.quoted number)] := by
    have hpart : (ryeItem (.text number)).part "value" = .text number := rfl
    rw [valueDefects, hpart]
    dsimp only
    rw [hunread]
    rfl
  have htypes : (millDocument [grainType (.text number)]).entries "types" =
      [grainType (.text number)] := rfl
  rw [ofValue_eq_of_truthy (shaped_grain number) rfl, defects, htypes, List.flatMap_singleton,
    typeDefects_grainType, hvalue]
  rfl

/-- The text of a number is refused if it has too many digits. -/
theorem padded_number_refused :
    let document := millDocument [grainType (.text paddedNumber)]
    document.Shaped ∧
      ¬AtFault (fun number => ∃ digits value, IntegerLiteral.Denotes number digits value) document ∧
      ofValue document "" =
        .error (.rejected ["Mill"] (.invalidItemValue "Grain" "Rye" (Text.quoted paddedNumber))) :=
  ⟨shaped_grain _, not_atFault_grain ⟨_, _, denotes_paddedNumber⟩, ofValue_grain value?_paddedNumber⟩

end Descriptor

end ScriptBridge
