import ScriptBridge.Text.Split

/-!
Dotted namespaces and their segments.
-/

namespace ScriptBridge.Namespace

/-- The namespace of what has none. -/
def global : String := "Global"

/-- The segments of a dotted namespace; empty ones do not count. -/
def segments (space : String) : List String :=
  (Text.dottedParts space).filter (!·.isEmpty)

/-- A namespace as the start of an accessor: `Foo.Bar` becomes `Foo_Bar`. -/
def accessorStart (space : String) : String :=
  String.intercalate "_" (segments space)

end ScriptBridge.Namespace
