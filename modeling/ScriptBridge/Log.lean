/-!
Records of what happened while modules were inspected and code was generated.
-/

namespace ScriptBridge

inductive LogLevel
  | debug
  | info
  | warning
  | error
deriving Repr, DecidableEq

namespace LogLevel

def label : LogLevel → String
  | .debug => "DEBUG"
  | .info => "INFO"
  | .warning => "WARNING"
  | .error => "ERROR"

end LogLevel

structure LogRecord where
  level : LogLevel
  logger : String
  message : String
deriving Repr, DecidableEq

def LogRecord.line (record : LogRecord) : String :=
  record.level.label ++ " " ++ record.logger ++ ": " ++ record.message

end ScriptBridge
