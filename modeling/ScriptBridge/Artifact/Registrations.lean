import ScriptBridge.Layout
import ScriptBridge.Surface

/-!
The serializer file: every managed type that crosses the boundary serialized is registered under its
canonical text.
-/

namespace ScriptBridge

namespace Registration

def referencePrimitives : List String := ["System.String", "System.Object", "System.Void"]

def unmappedValueTypes : List String := ["System.Guid", "System.TimeSpan"]

def listInterfaces : List String :=
  ["System.Collections.Generic.IList", "System.Collections.Generic.IReadOnlyList",
    "System.Collections.Generic.ICollection", "System.Collections.Generic.IReadOnlyCollection"]

def mapInterfaces : List String :=
  ["System.Collections.Generic.IDictionary", "System.Collections.Generic.IReadOnlyDictionary"]

def isArrayName (managed : String) : Bool :=
  "[]".toList.isSuffixOf managed.toList

/-- Whether a declared type is known to be a value type. -/
def isValueIdentity (surface : Surface) (identity : TypeIdentity) : Bool :=
  match surface.findType? identity with
  | some type => type.isValueType
  | none => false

/-- Whether a reference is to a value type, so that its nullable form is a type of its own. -/
def isValueType (surface : Surface) : TypeRef → Bool
  | .primitive _ managed => !referencePrimitives.contains managed && !isArrayName managed
  | .custom identity => isValueIdentity surface identity
  | .generic identity _ => isValueIdentity surface identity
  | .unknown managed _ => unmappedValueTypes.contains managed
  | _ => false

def global (name : String) : String := "global::" ++ name

def applied (name : String) (args : List String) : String :=
  name ++ "<" ++ String.intercalate ", " args ++ ">"

/-- A value paired with a byte, in which form tasks are registered. -/
def paired (type : String) : String := "(" ++ type ++ ", byte)"

mutual

/-- The canonical managed-side text of a reference. -/
def render (surface : Surface) : TypeRef → String
  | .primitive _ managed => global managed
  | .nullable inner =>
    if isValueType surface inner then render surface inner ++ "?" else render surface inner
  | .array element collection =>
    if collection.isEmpty then render surface element ++ "[]"
    else applied (global collection) [render surface element]
  | .map key value collection =>
    applied (global collection) [render surface key, render surface value]
  | .generic identity args => applied (global identity.fullName) (renderAll surface args)
  | .custom identity => global identity.fullName
  | .task => global "System.Threading.Tasks.Task"
  | .taskOf inner => paired (render surface inner)
  | .parameter name => name
  | .unknown managed args =>
    if managed.toList.contains '.' then
      if args.isEmpty then global managed else applied (global managed) (renderAll surface args)
    else global "System.Object"

def renderAll (surface : Surface) : List TypeRef → List String
  | [] => []
  | ref :: rest => render surface ref :: renderAll surface rest

end

/-- What is registered besides a collection interface itself: the collections that stand for it. -/
def substitutes (surface : Surface) : TypeRef → List String
  | .array element collection =>
    if listInterfaces.contains collection then
      let element := render surface element
      [applied (global "System.Collections.Generic.List") [element], element ++ "[]"]
    else []
  | .map key value collection =>
    if mapInterfaces.contains collection then
      [applied (global "System.Collections.Generic.Dictionary")
        [render surface key, render surface value]]
    else []
  | _ => []

/-- The registrations for one reference in a signature. -/
def ofRef (surface : Surface) : TypeRef → List String
  | .nullable inner => ofRef surface inner
  | .taskOf inner =>
    if inner.isSerialized then paired (render surface inner) :: ofRef surface inner else []
  | ref => if ref.isSerialized then render surface ref :: substitutes surface ref else []

def distinct : List String → List String
  | [] => []
  | text :: rest => text :: (distinct rest).filter (· != text)

/-- The registrations of a surface: those of the signatures, then the declared types without type
parameters. -/
def ofSurface (surface : Surface) : List String :=
  distinct
    ((surface.methods.flatMap (·.signature)).flatMap (ofRef surface) ++
      (surface.types.filter (·.parameters.isEmpty)).map fun type =>
        render surface (.custom type.identity))

/-- The serializer file; empty where nothing is registered. -/
def fileText (registrations : List String) : String :=
  if registrations.isEmpty then ""
  else
    Layout.text
      ([.line "using System.Text.Json.Serialization;", .line ""] ++
        registrations.map (fun type => .line ("[JsonSerializable(typeof(" ++ type ++ "))]")) ++
        [.line "internal partial class SerializerContext : JsonSerializerContext",
          .block "\x7b"
            [.line "[System.Runtime.CompilerServices.ModuleInitializer]",
              .line "internal static void InjectTypeInfoResolver ()",
              .block "\x7b"
                [.line "Serializer.Options.TypeInfoResolverChain.Add(SerializerContext.Default);"]
                "\x7d"]
            "\x7d"])

end Registration

end ScriptBridge
