import LiveCounter.Log.Format
import LiveCounter.Log.Record

/-!
# Log lines

The written form of records, one line each, in either format. The level of the settings keeps out
the records that are less serious than it.
-/

namespace LiveCounter

namespace LogLevel

/-- How serious a level is. -/
def rank : LogLevel → Nat
  | .debug => 1
  | .info => 2
  | .warn => 3
  | .error => 4

/-- How serious a record has to be to be written; `none` if none is written. -/
def threshold? (level : String) : Option Nat :=
  match level.toLower with
  | "trace" => some 0
  | "debug" => some 1
  | "info" => some 2
  | "warn" => some 3
  | "error" => some 4
  | _ => none

end LogLevel

namespace LogRecord

/-- Whether the level of the settings lets a record through. -/
def isWritten (level : String) (record : LogRecord) : Bool :=
  (LogLevel.threshold? level).any fun least => least ≤ record.level.rank

/-- The line of a record. -/
def line (format : LogFormat) (record : LogRecord) : String :=
  match format with
  | .json =>
    Json.compact (.object [
      ("level", .str record.level.name),
      ("fields", .object (("message", .str record.message) :: record.fields))])
  | .compact =>
    " ".intercalate (record.level.name :: record.message ::
      record.fields.map fun (name, value) => name ++ "=" ++ value.compact)

end LogRecord

end LiveCounter
