import ScriptBridge.TypeExpr.Parser

/-!
What can be wrong with descriptors, expressions and namespace rules.
-/

namespace ScriptBridge

/-- A malformed descriptor, type expression or namespace rule. -/
inductive Defect
  | invalidJson
  | notAnObject
  | noAssembly
  | unnamedType
  | unknownKind (kind type : String)
  | malformedMember (type : String)
  | malformedItem (type : String)
  | invalidItemValue (type item value : String)
  | unnamedMethod
  | malformedArgument (method : String)
  | ruleWithoutPattern
  | invalidPattern (pattern : String)
  | invalidReplacement (replacement pattern : String)
  | invalidExpression (text : String) (fault : TypeExpr.Fault)
deriving Repr, DecidableEq

def Defect.message : Defect → String
  | .invalidJson => "invalid JSON"
  | .notAnObject => "descriptor must be a JSON object"
  | .noAssembly => "descriptor has no assembly name"
  | .unnamedType => "type without name"
  | .unknownKind kind type => "unknown kind \"" ++ kind ++ "\" of type " ++ type
  | .malformedMember type => "malformed member of " ++ type
  | .malformedItem type => "malformed item of " ++ type
  | .invalidItemValue type item value => "invalid value of " ++ type ++ "." ++ item ++ ": " ++ value
  | .unnamedMethod => "method without name"
  | .malformedArgument method => "malformed argument of " ++ method
  | .ruleWithoutPattern => "namespace rule without pattern"
  | .invalidPattern pattern => "invalid namespace rule pattern \"" ++ pattern ++ "\""
  | .invalidReplacement replacement pattern =>
    "invalid replacement \"" ++ replacement ++ "\" of namespace rule \"" ++ pattern ++ "\""
  | .invalidExpression text fault =>
    "invalid type expression \"" ++ text ++ "\": " ++ fault.message

/-- A use of a value that its kind does not allow, found where no defect is reported. -/
inductive Misuse
  /-- A list was expected; the value has no elements. -/
  | notIterable
  /-- A record was expected; nothing can be sought in the value. -/
  | notSearchable
  /-- A record was expected; the value has elements but no fields. -/
  | noFields
  /-- A record was expected; the value's elements have no names. -/
  | notSubscriptable
  | notHashable
  | nameNotText
  | nameWithoutStart
  /-- A name whose parts have no lower case. -/
  | nameWithoutCase
  /-- A namespace that is not a text and that no rule looks at. -/
  | spaceNotText
  /-- A namespace that is not a text and that a rule looks at. -/
  | subjectNotText
  | patternNotText
  | expressionNotText
  | replacementNotText
  | infiniteNumber
  | repetitionTooLarge
  | conflictingSwitches
  | tooManyDigits
  | unknownGroup
  | unusablePath
  /-- A text or a path that holds an unpaired surrogate. -/
  | notEncodable
  | valueMissing
  | ruleMissing
deriving Repr, DecidableEq

def Misuse.message : Misuse → String
  | .notIterable => "a list was expected"
  | .notSearchable => "a record was expected"
  | .noFields => "a value without fields was used as a record"
  | .notSubscriptable => "a value without named parts was used as a record"
  | .notHashable => "a list or a record cannot be a key"
  | .nameNotText => "a name is not a text"
  | .nameWithoutStart => "a name has no first letter"
  | .nameWithoutCase => "a name has no lower case"
  | .spaceNotText => "a namespace is not a text"
  | .subjectNotText => "a pattern was sought in a namespace that is not a text"
  | .patternNotText => "a pattern is not a text"
  | .expressionNotText => "a type expression is not a text"
  | .replacementNotText => "a replacement is not a text"
  | .infiniteNumber => "an infinite number is not whole"
  | .repetitionTooLarge => "a repetition count is too large"
  | .conflictingSwitches => "the switches of a pattern exclude each other"
  | .tooManyDigits => "a number has too many digits"
  | .unknownGroup => "a replacement names a group that its pattern does not have"
  | .unusablePath => "a path holds a null character"
  | .notEncodable => "a text holds an unpaired surrogate"
  | .valueMissing => "an option has no value"
  | .ruleMissing => "a rule has no text"

/-- Why an operation fails. A defect stands under the names of what it was found in, outermost
first. -/
inductive Error
  | rejected (path : List String) (defect : Defect)
  | misused (misuse : Misuse)
deriving Repr, DecidableEq

/-- The text of a defect, after the names of what it was found in. -/
def Error.message : Error → String
  | .rejected path defect => String.intercalate ": " (path ++ [defect.message])
  | .misused misuse => misuse.message

def Error.within (name : String) : Error → Error
  | .rejected path defect => .rejected (name :: path) defect
  | .misused misuse => .misused misuse

end ScriptBridge
