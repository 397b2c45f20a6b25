import LiveCounter.Json.Merge
import LiveCounter.Settings.Environment
import LiveCounter.Settings.Validation

/-!
# Loading settings

Settings are put together in layers: the defaults, over them what the settings file holds, over that
the variables of the environment. The result is used only if it is valid.
-/

namespace LiveCounter

/-- What stands at the path of the settings file. -/
inductive SettingsFile where
  | absent
  | directory
  | bytes (content : ByteArray)

/-- Why a settings file has no text. -/
inductive FileFault where
  | isDirectory
  | notText
  deriving DecidableEq, Repr

/-- The wording of an unreadable file. -/
def FileFault.message : FileFault → String
  | .isDirectory => "Is a directory (os error 21)"
  | .notText => "stream did not contain valid UTF-8"

/-- Why settings cannot be loaded. -/
inductive LoadFault where
  | unreadable (fault : FileFault)
  | json (fault : Json.Fault)
  | invalid (fault : SettingsFault)
  deriving DecidableEq

/-- The wording of settings that cannot be loaded; that of a malformed text ends where the place of
the fault would be described. -/
def LoadFault.message : LoadFault → String
  | .unreadable fault => "failed to read settings file: " ++ fault.message
  | .json (.mismatch message) => "failed to parse settings JSON: " ++ message
  | .json _ => "failed to parse settings JSON"
  | .invalid fault => "invalid settings value: " ++ fault.message

/-- The text of a settings file, if there is one. -/
def SettingsFile.text? : SettingsFile → Except FileFault (Option String)
  | .absent => .ok none
  | .directory => .error .isDirectory
  | .bytes content =>
    match String.fromUTF8? content with
    | some text => .ok (some text)
    | none => .error .notText

namespace Settings

/-- The path of the settings file of a user with the given home directory. -/
def path (home : Option String) : String :=
  let home := home.getD "/tmp"
  let joined := home.isEmpty || home.toList.getLast? == some '/'
  home ++ (if joined then "" else "/") ++ ".tally/settings.json"

/-- The settings that a text denotes on its own, without layers. -/
def parse (text : String) : Except Json.Fault Settings :=
  Json.whole schema.read text

/-- The settings that a text denotes when it is laid over the defaults. -/
def overDefaults (text : String) : Except Json.Fault Settings := do
  let upper ← Json.parse text
  schema.ofJson (Json.merge (json {}) upper)

/-- The settings of a file, before the environment is looked at. -/
def ofFile (file : SettingsFile) : Except LoadFault Settings :=
  match file.text? with
  | .error fault => .error (.unreadable fault)
  | .ok none =>
    match schema.ofJson (json {}) with
    | .error fault => .error (.json fault)
    | .ok settings => .ok settings
  | .ok (some text) =>
    match overDefaults text with
    | .error fault => .error (.json fault)
    | .ok settings => .ok settings

/-- The settings if they are valid. -/
def validated (settings : Settings) : Except LoadFault Settings :=
  match settings.fault? with
  | none => .ok settings
  | some fault => .error (.invalid fault)

/-- Loads the settings, with the warnings that the environment raised on the way. -/
def load (file : SettingsFile) (environment : Environment) :
    Except LoadFault Settings × List OverrideWarning :=
  match ofFile file with
  | .error e => (.error e, [])
  | .ok settings =>
    let (settings, warnings) := settings.override environment
    (settings.validated, warnings)

end Settings

end LiveCounter
