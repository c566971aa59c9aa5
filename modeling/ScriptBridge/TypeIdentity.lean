import ScriptBridge.Value

/-!
Identities of declared types. A descriptor's names are nearly always texts; any other value is kept as
it is and stands in texts as it is shown.
-/

namespace ScriptBridge

/-- What tells one declared type from another: namespace, name and number of type parameters. -/
structure TypeIdentity where
  space : Value
  name : Value
  arity : Nat := 0
deriving Repr, DecidableEq

namespace TypeIdentity

/-- The key of a full name and an arity: the arity follows a backquote unless it is zero. -/
def keyOf (fullName : String) (arity : Nat) : String :=
  if arity = 0 then fullName else fullName ++ "`" ++ toString arity

def fullName (identity : TypeIdentity) : String :=
  if identity.space.isTruthy then identity.space.display ++ "." ++ identity.name.display
  else identity.name.display

/-- The text of the identity, by which declarations are found. -/
def key (identity : TypeIdentity) : String :=
  keyOf identity.fullName identity.arity

end TypeIdentity

end ScriptBridge
