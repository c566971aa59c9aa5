/-!
Type expressions: a qualified name, type arguments, and suffixes.
-/

namespace ScriptBridge

/-- What may follow a type: `?` for an optional value, `[]` for an array. -/
inductive TypeExpr.Suffix
  | nullable
  | array
deriving Repr, DecidableEq

/-- A type expression. The suffixes stand in reading order: the innermost comes first. -/
inductive TypeExpr
  | mk (name : String) (args : List TypeExpr) (suffixes : List TypeExpr.Suffix)
deriving Repr

namespace TypeExpr

mutual

def decEq : (a b : TypeExpr) → Decidable (a = b)
  | .mk name args suffixes, .mk name' args' suffixes' =>
    if h : name = name' ∧ suffixes = suffixes' then
      match decEqAll args args' with
      | isTrue h' => isTrue (by rw [h.1, h.2, h'])
      | isFalse h' => isFalse fun heq => h' (TypeExpr.mk.inj heq).2.1
    else isFalse fun heq => h ⟨(TypeExpr.mk.inj heq).1, (TypeExpr.mk.inj heq).2.2⟩

def decEqAll : (as bs : List TypeExpr) → Decidable (as = bs)
  | [], [] => isTrue rfl
  | [], _ :: _ => isFalse (by simp)
  | _ :: _, [] => isFalse (by simp)
  | a :: as, b :: bs =>
    match decEq a b, decEqAll as bs with
    | isTrue h, isTrue h' => isTrue (by rw [h, h'])
    | isFalse h, _ => isFalse fun heq => h (List.cons.inj heq).1
    | _, isFalse h => isFalse fun heq => h (List.cons.inj heq).2

end

instance : DecidableEq TypeExpr := decEq

def Suffix.text : Suffix → String
  | .nullable => "?"
  | .array => "[]"

def name : TypeExpr → String
  | .mk name _ _ => name

def args : TypeExpr → List TypeExpr
  | .mk _ args _ => args

def suffixes : TypeExpr → List Suffix
  | .mk _ _ suffixes => suffixes

mutual

/-- The expression in its plain layout: arguments separated by a comma and a blank. -/
def text : TypeExpr → String
  | .mk name args suffixes =>
    name ++ argumentText args ++ String.join (suffixes.map Suffix.text)

/-- Arguments between angle brackets; nothing where there are none. -/
def argumentText : List TypeExpr → String
  | [] => ""
  | first :: others => "<" ++ first.text ++ moreArguments others ++ ">"

def moreArguments : List TypeExpr → String
  | [] => ""
  | next :: others => ", " ++ next.text ++ moreArguments others

end

end TypeExpr

end ScriptBridge
