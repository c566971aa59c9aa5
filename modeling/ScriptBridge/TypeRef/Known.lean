import ScriptBridge.TypeRef

/-!
The managed types that are known without a declaration.
-/

namespace ScriptBridge.Known

/-- Keywords and the types they stand for. -/
def aliases : List (String × String) :=
  [("bool", "System.Boolean"), ("byte", "System.Byte"), ("sbyte", "System.SByte"),
    ("short", "System.Int16"), ("ushort", "System.UInt16"), ("int", "System.Int32"),
    ("uint", "System.UInt32"), ("long", "System.Int64"), ("ulong", "System.UInt64"),
    ("float", "System.Single"), ("double", "System.Double"), ("decimal", "System.Decimal"),
    ("char", "System.Char"), ("string", "System.String"), ("object", "System.Object"),
    ("void", "System.Void")]

def primitives : List (String × Bucket) :=
  [("System.Boolean", .boolean), ("System.Byte", .number), ("System.SByte", .number),
    ("System.Int16", .number), ("System.UInt16", .number), ("System.Int32", .number),
    ("System.UInt32", .number), ("System.Int64", .bigint), ("System.UInt64", .bigint),
    ("System.Single", .number), ("System.Double", .number), ("System.Decimal", .number),
    ("System.Char", .string), ("System.String", .string), ("System.DateTime", .date),
    ("System.DateTimeOffset", .date), ("System.Void", .void)]

/-- Integer types whose native arrays are typed arrays in script. -/
def typedArrays : List (String × Bucket) :=
  [("System.Byte", .uint8Array), ("System.SByte", .int8Array), ("System.UInt16", .uint16Array),
    ("System.Int16", .int16Array), ("System.UInt32", .uint32Array), ("System.Int32", .int32Array),
    ("System.Int64", .bigInt64Array), ("System.UInt64", .bigUint64Array)]

def listCollections : List String :=
  ["System.Collections.Generic.List", "System.Collections.Generic.IList",
    "System.Collections.Generic.IReadOnlyList", "System.Collections.Generic.ICollection",
    "System.Collections.Generic.IReadOnlyCollection"]

def mapCollections : List String :=
  ["System.Collections.Generic.Dictionary", "System.Collections.Generic.IDictionary",
    "System.Collections.Generic.IReadOnlyDictionary"]

def tasks : List String :=
  ["System.Threading.Tasks.Task", "System.Threading.Tasks.ValueTask"]

def nullable : String := "System.Nullable"

def unmapped : List String :=
  ["System.Object", "System.Guid", "System.TimeSpan", "System.Uri", "System.DBNull",
    "System.Collections.Generic.IEnumerable", "System.Collections.Generic.ISet",
    "System.Collections.Generic.HashSet"]

def fullNames : List String :=
  primitives.map (·.1) ++ listCollections ++ mapCollections ++ tasks ++ unmapped ++ [nullable]

/-- Namespaces whose known types may be written by their short names. -/
def implicitSpaces : List String :=
  ["System", "System.Collections.Generic", "System.Threading.Tasks"]

def fullName? (name : String) : Option String :=
  match aliases.lookup name with
  | some full => some full
  | none =>
    if fullNames.contains name then some name
    else (implicitSpaces.map fun space => space ++ "." ++ name).find? (fullNames.contains ·)

/-- The array of some elements: typed if they are integers of a fixed width. -/
def arrayOf (element : TypeRef) : TypeRef :=
  match element with
  | .primitive _ managed =>
    match typedArrays.lookup managed with
    | some bucket => .primitive bucket (managed ++ "[]")
    | none => .array element ""
  | _ => .array element ""

/-- An optional value; one that is optional already stays what it is. -/
def nullableOf (inner : TypeRef) : TypeRef :=
  if inner.isNullable then inner else .nullable inner

/-- The known type of a full name with some arguments. With a number of arguments that is not its own
it is unknown. -/
def apply (full : String) (args : List TypeRef) : TypeRef :=
  match args with
  | [] =>
    match primitives.lookup full with
    | some bucket => .primitive bucket full
    | none => if tasks.contains full then .task else .unknown full []
  | [arg] =>
    if full == nullable then nullableOf arg
    else if listCollections.contains full then .array arg full
    else if tasks.contains full then .taskOf arg
    else .unknown full [arg]
  | [key, value] =>
    if mapCollections.contains full then .map key value full else .unknown full [key, value]
  | args => .unknown full args

end ScriptBridge.Known
