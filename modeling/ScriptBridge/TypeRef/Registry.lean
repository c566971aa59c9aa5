import ScriptBridge.Descriptor
import ScriptBridge.Error
import ScriptBridge.TypeRef.Known

/-!
Declared types by key, and what type expressions refer to among them.
-/

namespace ScriptBridge

/-- The declared types, each under its key. The keys are distinct. -/
structure Registry where
  decls : List TypeDecl := []
deriving Repr

namespace Registry

def find? (registry : Registry) (key : String) : Option TypeDecl :=
  registry.decls.find? (·.key == .text key)

def declares (registry : Registry) (key : Value) : Bool :=
  registry.decls.any (·.key.isSameKey key)

/-- The registry with one more type. The key must not be there. -/
def add (registry : Registry) (decl : TypeDecl) : Registry :=
  { registry with decls := registry.decls ++ [decl] }

/-- A namespace and those around it, innermost first, each as its parts; the last has none. -/
def enclosing (space : String) : List (List String) :=
  let parts := if space.isEmpty then [] else Text.dottedParts space
  ((List.range (parts.length + 1)).reverse).map parts.take

/-- The keys that a name with some number of arguments may have in a namespace, nearest first. -/
def candidates (name space : String) (arity : Nat) : List String :=
  (enclosing space).map fun parts => TypeIdentity.keyOf (Text.dotted (parts ++ [name])) arity

/-- The declared type that a name with some number of arguments denotes in a namespace. -/
def lookup? (registry : Registry) (name space : String) (arity : Nat) : Option TypeDecl :=
  (candidates name space arity).findSome? registry.find?

def withSuffix (ref : TypeRef) : TypeExpr.Suffix → TypeRef
  | .nullable => Known.nullableOf ref
  | .array => Known.arrayOf ref

/-- What a name with resolved arguments refers to: a type parameter, else a declared type, else a known
one, else an unknown one. -/
def named (registry : Registry) (space : String) (parameters : List String) (name : String)
    (args : List TypeRef) : TypeRef :=
  if args.isEmpty && parameters.contains name then .parameter name
  else
    match registry.lookup? name space args.length with
    | some decl =>
      if args.isEmpty then .custom decl.identity else .generic decl.identity args
    | none =>
      match Known.fullName? name with
      | some full => Known.apply full args
      | none => .unknown name args

mutual

/-- What an expression refers to in a namespace, with some type parameters in scope. -/
def resolve (registry : Registry) (space : String) (parameters : List String) : TypeExpr → TypeRef
  | .mk name args suffixes =>
    suffixes.foldl withSuffix
      (registry.named space parameters name (resolveAll registry space parameters args))

def resolveAll (registry : Registry) (space : String) (parameters : List String) :
    List TypeExpr → List TypeRef
  | [] => []
  | expr :: rest =>
    resolve registry space parameters expr :: resolveAll registry space parameters rest

end

def resolveText (registry : Registry) (text space : String) (parameters : List String) :
    Except Error TypeRef :=
  match TypeExpr.parse text with
  | .ok expr => .ok (registry.resolve space parameters expr)
  | .error fault => .error (.rejected [] (.invalidExpression text fault))

def resolveValue (registry : Registry) (given : Value) (space : String) (parameters : List String) :
    Except Error TypeRef :=
  match given with
  | .text text => registry.resolveText text space parameters
  | _ => .error (.misused .expressionNotText)

end Registry

end ScriptBridge
