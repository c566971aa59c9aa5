import ScriptBridge.TypeIdentity

/-!
Resolved references to managed types.
-/

namespace ScriptBridge

/-- The script-side types that primitive managed types come out as. -/
inductive Bucket
  | number
  | bigint
  | boolean
  | string
  | date
  | void
  | uint8Array
  | int8Array
  | uint16Array
  | int16Array
  | uint32Array
  | int32Array
  | bigInt64Array
  | bigUint64Array
  | any
deriving Repr, DecidableEq

namespace Bucket

def all : List Bucket :=
  [.number, .bigint, .boolean, .string, .date, .void, .uint8Array, .int8Array, .uint16Array,
    .int16Array, .uint32Array, .int32Array, .bigInt64Array, .bigUint64Array, .any]

def text : Bucket → String
  | .number => "number"
  | .bigint => "bigint"
  | .boolean => "boolean"
  | .string => "string"
  | .date => "Date"
  | .void => "void"
  | .uint8Array => "Uint8Array"
  | .int8Array => "Int8Array"
  | .uint16Array => "Uint16Array"
  | .int16Array => "Int16Array"
  | .uint32Array => "Uint32Array"
  | .int32Array => "Int32Array"
  | .bigInt64Array => "BigInt64Array"
  | .bigUint64Array => "BigUint64Array"
  | .any => "any"

def label : Bucket → String
  | .number => "NUMBER"
  | .bigint => "BIGINT"
  | .boolean => "BOOLEAN"
  | .string => "STRING"
  | .date => "DATE"
  | .void => "VOID"
  | .uint8Array => "UINT8_ARRAY"
  | .int8Array => "INT8_ARRAY"
  | .uint16Array => "UINT16_ARRAY"
  | .int16Array => "INT16_ARRAY"
  | .uint32Array => "UINT32_ARRAY"
  | .int32Array => "INT32_ARRAY"
  | .bigInt64Array => "BIGINT64_ARRAY"
  | .bigUint64Array => "BIGUINT64_ARRAY"
  | .any => "ANY"

end Bucket

inductive TypeRef
  | primitive (bucket : Bucket) (managed : String)
  | nullable (inner : TypeRef)
  /-- A native array if the collection is empty, else a list collection. -/
  | array (element : TypeRef) (collection : String)
  | map (key value : TypeRef) (collection : String)
  /-- A declared type with type arguments. -/
  | generic (identity : TypeIdentity) (args : List TypeRef)
  | custom (identity : TypeIdentity)
  /-- A task without a value. -/
  | task
  | taskOf (inner : TypeRef)
  | parameter (name : String)
  /-- A managed type without a script-side one. -/
  | unknown (managed : String) (args : List TypeRef)
deriving Repr

namespace TypeRef

mutual

/-- Whether two references are of one kind and alike in all their parts. -/
def same : TypeRef → TypeRef → Bool
  | .primitive bucket managed, .primitive bucket' managed' => bucket == bucket' && managed == managed'
  | .nullable inner, .nullable inner' => same inner inner'
  | .array element collection, .array element' collection' =>
    same element element' && collection == collection'
  | .map key value collection, .map key' value' collection' =>
    same key key' && same value value' && collection == collection'
  | .generic identity args, .generic identity' args' => identity == identity' && sameAll args args'
  | .custom identity, .custom identity' => identity == identity'
  | .task, .task => true
  | .taskOf inner, .taskOf inner' => same inner inner'
  | .parameter name, .parameter name' => name == name'
  | .unknown managed args, .unknown managed' args' => managed == managed' && sameAll args args'
  | _, _ => false

def sameAll : List TypeRef → List TypeRef → Bool
  | [], [] => true
  | a :: as, b :: bs => same a b && sameAll as bs
  | _, _ => false

end

mutual

theorem same_self : ∀ a : TypeRef, same a a = true
  | .primitive .. | .custom _ | .task | .parameter _ => by simp [same]
  | .nullable inner => by simp [same, same_self inner]
  | .array element _ => by simp [same, same_self element]
  | .map key value _ => by simp [same, same_self key, same_self value]
  | .generic _ args => by simp [same, sameAll_self args]
  | .taskOf inner => by simp [same, same_self inner]
  | .unknown _ args => by simp [same, sameAll_self args]

theorem sameAll_self : ∀ refs : List TypeRef, sameAll refs refs = true
  | [] => by simp [sameAll]
  | a :: as => by simp [sameAll, same_self a, sameAll_self as]

end

mutual

theorem eq_of_same : ∀ a b : TypeRef, same a b = true → a = b
  | .primitive .., b, h => by cases b <;> simp_all [same]
  | .custom _, b, h => by cases b <;> simp_all [same]
  | .task, b, h => by cases b <;> simp_all [same]
  | .parameter _, b, h => by cases b <;> simp_all [same]
  | .nullable inner, b, h => by
    cases b with
    | nullable other => rw [eq_of_same inner other (by simpa [same] using h)]
    | _ => simp [same] at h
  | .array element _, b, h => by
    cases b with
    | array other _ =>
      simp only [same, Bool.and_eq_true, beq_iff_eq] at h
      rw [eq_of_same element other h.1, h.2]
    | _ => simp [same] at h
  | .map key value _, b, h => by
    cases b with
    | map key' value' _ =>
      simp only [same, Bool.and_eq_true, beq_iff_eq] at h
      rw [eq_of_same key key' h.1.1, eq_of_same value value' h.1.2, h.2]
    | _ => simp [same] at h
  | .generic _ args, b, h => by
    cases b with
    | generic _ others =>
      simp only [same, Bool.and_eq_true, beq_iff_eq] at h
      rw [h.1, eq_of_sameAll args others h.2]
    | _ => simp [same] at h
  | .taskOf inner, b, h => by
    cases b with
    | taskOf other => rw [eq_of_same inner other (by simpa [same] using h)]
    | _ => simp [same] at h
  | .unknown _ args, b, h => by
    cases b with
    | unknown _ others =>
      simp only [same, Bool.and_eq_true, beq_iff_eq] at h
      rw [h.1, eq_of_sameAll args others h.2]
    | _ => simp [same] at h

theorem eq_of_sameAll : ∀ as bs : List TypeRef, sameAll as bs = true → as = bs
  | [], bs, h => by cases bs <;> simp_all [sameAll]
  | a :: as, bs, h => by
    cases bs with
    | nil => simp [sameAll] at h
    | cons b bs =>
      simp only [sameAll, Bool.and_eq_true] at h
      rw [eq_of_same a b h.1, eq_of_sameAll as bs h.2]

end

theorem same_iff {a b : TypeRef} : same a b = true ↔ a = b :=
  ⟨eq_of_same a b, fun h => h ▸ same_self a⟩

instance : DecidableEq TypeRef := fun _ _ => decidable_of_iff _ same_iff

def isNullable : TypeRef → Bool
  | .nullable _ => true
  | _ => false

/-- Whether the reference is to a task, with a value or without. -/
def isAsync : TypeRef → Bool
  | .task => true
  | .taskOf _ => true
  | _ => false

def stripNullable : TypeRef → TypeRef
  | .nullable inner => inner.stripNullable
  | ref => ref

/-- `void`, and a task without a value. -/
def isVoid : TypeRef → Bool
  | .task => true
  | .primitive .void managed => managed == "System.Void"
  | _ => false

/-- The identity of the declared type that the reference itself names. -/
def identity? : TypeRef → Option TypeIdentity
  | .custom identity => some identity
  | .generic identity _ => some identity
  | _ => none

mutual

/-- The reference and those nested in it, outermost first. The arguments of an unknown type are left
out. -/
def walk : TypeRef → List TypeRef
  | .nullable inner => .nullable inner :: inner.walk
  | .array element collection => .array element collection :: element.walk
  | .map key value collection => .map key value collection :: (key.walk ++ value.walk)
  | .generic identity args => .generic identity args :: walkAll args
  | .taskOf inner => .taskOf inner :: inner.walk
  | ref => [ref]

def walkAll : List TypeRef → List TypeRef
  | [] => []
  | ref :: rest => ref.walk ++ walkAll rest

end

/-- The declared types named in a reference, at any depth. -/
def identities (ref : TypeRef) : List TypeIdentity :=
  ref.walk.filterMap identity?

/-- Whether values of the type cross the boundary as serialized text. -/
def isSerialized : TypeRef → Bool
  | .custom _ => true
  | .generic _ _ => true
  | .map _ _ _ => true
  | .array element collection => !collection.isEmpty || element.isSerialized
  | .nullable inner => inner.isSerialized
  | .taskOf inner => inner.isSerialized
  | _ => false

end TypeRef

end ScriptBridge
