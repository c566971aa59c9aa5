import ScriptBridge.Number.Binary64
import ScriptBridge.Text.Quoted

/-!
The values a descriptor is made of, and how messages show them.
-/

namespace ScriptBridge

/-- A value of a descriptor document. A record keeps its fields in the order they were written in. -/
inductive Value
  | null
  | bool (b : Bool)
  | int (n : Int)
  | double (x : Binary64)
  | text (s : String)
  | list (items : List Value)
  | record (fields : List (String × Value))
deriving Repr

namespace Value

instance : Inhabited Value := ⟨.null⟩

mutual

/-- Whether two values are of one kind and alike in all their parts. -/
def same : Value → Value → Bool
  | .null, .null => true
  | .bool a, .bool b => a == b
  | .int a, .int b => a == b
  | .double a, .double b => a == b
  | .text a, .text b => a == b
  | .list a, .list b => sameItems a b
  | .record a, .record b => sameFields a b
  | _, _ => false

def sameItems : List Value → List Value → Bool
  | [], [] => true
  | a :: as, b :: bs => same a b && sameItems as bs
  | _, _ => false

def sameFields : List (String × Value) → List (String × Value) → Bool
  | [], [] => true
  | (k, a) :: as, (l, b) :: bs => k == l && same a b && sameFields as bs
  | _, _ => false

end

mutual

theorem same_self : ∀ a : Value, same a a = true
  | .null | .bool _ | .int _ | .double _ | .text _ => by simp [same]
  | .list items => by simp [same, sameItems_self items]
  | .record fields => by simp [same, sameFields_self fields]

theorem sameItems_self : ∀ items : List Value, sameItems items items = true
  | [] => by simp [sameItems]
  | a :: as => by simp [sameItems, same_self a, sameItems_self as]

theorem sameFields_self : ∀ fields : List (String × Value), sameFields fields fields = true
  | [] => by simp [sameFields]
  | (_, a) :: as => by simp [sameFields, same_self a, sameFields_self as]

end

mutual

theorem eq_of_same : ∀ a b : Value, same a b = true → a = b
  | .null, b, h => by cases b <;> simp_all [same]
  | .bool _, b, h => by cases b <;> simp_all [same]
  | .int _, b, h => by cases b <;> simp_all [same]
  | .double _, b, h => by cases b <;> simp_all [same]
  | .text _, b, h => by cases b <;> simp_all [same]
  | .list items, b, h => by
    cases b with
    | list others => rw [eq_of_sameItems items others (by simpa [same] using h)]
    | _ => simp [same] at h
  | .record fields, b, h => by
    cases b with
    | record others => rw [eq_of_sameFields fields others (by simpa [same] using h)]
    | _ => simp [same] at h

theorem eq_of_sameItems : ∀ as bs : List Value, sameItems as bs = true → as = bs
  | [], bs, h => by cases bs <;> simp_all [sameItems]
  | a :: as, bs, h => by
    cases bs with
    | nil => simp [sameItems] at h
    | cons b bs =>
      simp only [sameItems, Bool.and_eq_true] at h
      rw [eq_of_same a b h.1, eq_of_sameItems as bs h.2]

theorem eq_of_sameFields : ∀ as bs : List (String × Value), sameFields as bs = true → as = bs
  | [], bs, h => by cases bs <;> simp_all [sameFields]
  | (k, a) :: as, bs, h => by
    cases bs with
    | nil => simp [sameFields] at h
    | cons entry bs =>
      simp only [sameFields, Bool.and_eq_true, beq_iff_eq] at h
      obtain ⟨l, b⟩ := entry
      rw [h.1.1, eq_of_same a b h.1.2, eq_of_sameFields as bs h.2]

end

theorem same_iff {a b : Value} : same a b = true ↔ a = b :=
  ⟨eq_of_same a b, fun h => h ▸ same_self a⟩

instance : DecidableEq Value := fun _ _ => decidable_of_iff _ same_iff

/-- Null, false, zeros and empty values count as absent. -/
def isTruthy : Value → Bool
  | .null => false
  | .bool b => b
  | .int n => n != 0
  | .double x => !x.isZero
  | .text s => !s.isEmpty
  | .list items => !items.isEmpty
  | .record fields => !fields.isEmpty

/-- Whether a value can serve as a key. -/
def isHashable : Value → Bool
  | .list _ => false
  | .record _ => false
  | _ => true

/-- The whole number that a value is, true and false being one and zero. -/
def wholeNumber? : Value → Option Int
  | .bool b => some (if b then 1 else 0)
  | .int n => some n
  | .double x => x.wholeNumber?
  | _ => none

/-- Whether two values are the same key. Numbers are told apart by their size alone. -/
def isSameKey (a b : Value) : Bool :=
  match a.wholeNumber?, b.wholeNumber? with
  | some m, some n => m == n
  | none, none => a == b
  | _, _ => false

def isText : Value → Bool
  | .text _ => true
  | _ => false

theorem exists_text_of_isText {v : Value} (htext : v.isText = true) : ∃ text, v = .text text := by
  cases v with
  | text text => exact ⟨text, rfl⟩
  | _ => cases htext

def asText? : Value → Option String
  | .text s => some s
  | _ => none

mutual

/-- A value as it is shown inside another, its texts in quotes. The numbers in it are taken to have not too
many digits, as no number has that is read from a document. -/
def inspect : Value → String
  | .null => "None"
  | .bool true => "True"
  | .bool false => "False"
  | .int n => toString n
  | .double x => x.text
  | .text s => Text.quoted s
  | .list items => "[" ++ String.intercalate ", " (inspectItems items) ++ "]"
  | .record fields => "\x7b" ++ String.intercalate ", " (inspectFields fields) ++ "\x7d"

def inspectItems : List Value → List String
  | [] => []
  | item :: rest => item.inspect :: inspectItems rest

def inspectFields : List (String × Value) → List String
  | [] => []
  | (key, item) :: rest => (Text.quoted key ++ ": " ++ item.inspect) :: inspectFields rest

end

/-- A value as part of a message: a text stands for itself. -/
def display : Value → String
  | .text s => s
  | v => v.inspect

/-- What the kind of a value is called where a value of another kind was expected. -/
def kindName : Value → String
  | .null => "NoneType"
  | .bool _ => "bool"
  | .int _ => "int"
  | .double _ => "float"
  | .text _ => "str"
  | .list _ => "list"
  | .record _ => "dict"

end Value

/-- The fields of a record with one more written to it: a key that is there keeps its place. -/
def putField (fields : List (String × Value)) (key : String) (item : Value) :
    List (String × Value) :=
  if fields.any (·.1 == key) then fields.map fun entry => if entry.1 == key then (key, item) else entry
  else fields ++ [(key, item)]

end ScriptBridge
