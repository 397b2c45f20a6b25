/-!
# Log formats

Logs are written as compact lines or as JSON. A format is chosen by name; a lenient choice ignores
case and takes `text` for `compact`.
-/

namespace LiveCounter

/-- How log records are written. -/
inductive LogFormat where
  | compact
  | json
  deriving DecidableEq, Repr

namespace LogFormat

/-- The name of a format. -/
def name : LogFormat → String
  | .compact => "compact"
  | .json => "json"

/-- The format of exactly this name. -/
def ofName? : String → Option LogFormat
  | "compact" => some .compact
  | "json" => some .json
  | _ => none

/-- The format that a text chooses, in any case. No letter outside ASCII has one of the letters of
these names as its lower case, so lowering the ASCII letters is enough. -/
def parse? (text : String) : Option LogFormat :=
  match text.toLower with
  | "text" => some .compact
  | lowered => ofName? lowered

end LogFormat

end LiveCounter
