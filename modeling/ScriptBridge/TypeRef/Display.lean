import ScriptBridge.Text.Quoted
import ScriptBridge.TypeRef

/-!
References as the log shows them, with all their parts.
-/

namespace ScriptBridge

/-- Items between parentheses; a single one is followed by a comma. -/
def tupleText : List String → String
  | [] => "()"
  | [item] => "(" ++ item ++ ",)"
  | items => "(" ++ String.intercalate ", " items ++ ")"

/-- A kind of thing with its parts by name. -/
def partsText (kind : String) (parts : List (String × String)) : String :=
  kind ++ "(" ++ String.intercalate ", " (parts.map fun (name, part) => name ++ "=" ++ part) ++ ")"

def TypeIdentity.display (identity : TypeIdentity) : String :=
  partsText "TypeIdentity"
    [("namespace", identity.space.inspect), ("name", identity.name.inspect),
      ("arity", toString identity.arity)]

def Bucket.display (bucket : Bucket) : String :=
  "<Bucket." ++ bucket.label ++ ": " ++ Text.quoted bucket.text ++ ">"

namespace TypeRef

mutual

def display : TypeRef → String
  | .primitive bucket managed =>
    partsText "Primitive" [("bucket", bucket.display), ("clr_name", Text.quoted managed)]
  | .nullable inner => partsText "Nullable" [("inner", inner.display)]
  | .array element collection =>
    partsText "Array" [("element", element.display), ("collection", Text.quoted collection)]
  | .map key value collection =>
    partsText "Map"
      [("key", key.display), ("value", value.display), ("collection", Text.quoted collection)]
  | .generic identity args =>
    partsText "Generic" [("identity", identity.display), ("args", tupleText (displayAll args))]
  | .custom identity => partsText "Custom" [("identity", identity.display)]
  | .task => partsText "AsyncWrapper" [("inner", "None")]
  | .taskOf inner => partsText "AsyncWrapper" [("inner", inner.display)]
  | .parameter name => partsText "TypeParameter" [("name", Text.quoted name)]
  | .unknown managed args =>
    partsText "Unknown"
      [("clr_name", Text.quoted managed), ("args", tupleText (displayAll args))]

def displayAll : List TypeRef → List String
  | [] => []
  | ref :: rest => ref.display :: displayAll rest

end

end TypeRef

end ScriptBridge
