import LiveCounter.Json.Value

/-!
# Log records

What the server reports about its work: a level, a message, and named fields with texts, numbers or
truth values.
-/

namespace LiveCounter

/-- How serious a record is. -/
inductive LogLevel where
  | debug
  | info
  | warn
  | error
  deriving DecidableEq, Repr

/-- The name of a level. -/
def LogLevel.name : LogLevel → String
  | .debug => "DEBUG"
  | .info => "INFO"
  | .warn => "WARN"
  | .error => "ERROR"

/-- One report. -/
structure LogRecord where
  level : LogLevel
  message : String
  fields : List (String × Json)

/-- The JSON form of a record. -/
def LogRecord.json (record : LogRecord) : Json :=
  .arr [.str record.level.name, .str record.message, .object record.fields]

end LiveCounter
