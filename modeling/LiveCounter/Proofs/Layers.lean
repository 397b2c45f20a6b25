import LiveCounter.Json.Access
import LiveCounter.Proofs.Merging

/-!
# Settings in layers

Each field of the settings has three sources: a variable of the environment, a member in a section
of the file, and its default. The loaded settings take each field from the first of its own sources
that has a value, whatever the other fields and unknown names hold. A file counts only if all its
known fields are of their declared types, also those that a variable overrides; a `null`, for a
field or for a section, is as good as nothing.
-/

namespace LiveCounter

namespace Json

/-- The natural number of `bits` bits that a value is. -/
def asNat? (bits : Nat) : Json → Option Nat
  | .int value => if 0 ≤ value ∧ value.toNat < 1 <<< bits then some value.toNat else none
  | _ => none

/-- The log format that a value names, as a text or as the only name in an object. -/
def asFormat? : Json → Option LogFormat
  | .str name => LogFormat.ofName? name
  | .obj [(name, .null)] => LogFormat.ofName? name
  | _ => none

/-- The section is missing, `null` or an object. -/
def IsSection (name : String) (file : List (String × Json)) : Prop :=
  ∀ found ∈ find? name file, found = .null ∨ ∃ members, found = .obj members

/-- The members of a section; one that is missing or `null` has none. -/
def sectionOf (name : String) (file : List (String × Json)) : List (String × Json) :=
  match find? name file with
  | some (.obj members) => members
  | _ => []

end Json

open Json (Schema Ordered)

/-- One field of the settings: its place in a file and the values of its declared type there, the
variable that overrides it and the texts that are valid for it, and its default. -/
structure Setting (α : Type) where
  part : String
  name : String
  ofJson? : Json → Option α
  key : String
  ofText? : String → Option α
  default : α

namespace Setting

variable {α : Type}

/-- What a file holds for the setting; `null` is nothing. -/
def given? (setting : Setting α) (file : List (String × Json)) : Option Json :=
  match Json.find? setting.name (Json.sectionOf setting.part file) with
  | some .null => none
  | found => found

/-- What a file holds for the setting, if anything, is of its declared type. -/
def Fits (setting : Setting α) (file : List (String × Json)) : Prop :=
  ∀ found ∈ setting.given? file, (setting.ofJson? found).isSome

instance (setting : Setting α) (file : List (String × Json)) : Decidable (setting.Fits file) :=
  decidable_of_iff ((setting.given? file).all fun found => (setting.ofJson? found).isSome)
    (by simp [Fits, Option.all_eq_true])

/-- The value of the setting after the file: the one in the file, or else the default. -/
def inFile (setting : Setting α) (file : List (String × Json)) : α :=
  ((setting.given? file).bind setting.ofJson?).getD setting.default

/-- The value of the setting after the environment: the one in its variable, if that is set and
valid, or else the one from below. -/
def resolve (setting : Setting α) (environment : Environment) (below : α) : α :=
  ((environment setting.key).bind setting.ofText?).getD below

/-- The value of the setting after all layers. -/
def layered (setting : Setting α) (file : List (String × Json)) (environment : Environment) : α :=
  setting.resolve environment (setting.inFile file)

/-- A setting that is a text; a variable that holds the empty text is not valid. -/
def text (part name key default : String) : Setting String where
  part
  name
  ofJson? := Json.asText?
  key
  ofText? text := if text.isEmpty then none else some text
  default

/-- A setting that is a number of `bits` bits in a file. A variable holds it as a number of
`textBits` bits between two bounds. -/
def number (part name : String) (bits : Nat) (key : String) (textBits lo hi : Nat)
    (ofNat : Nat → α) (default : α) : Setting α where
  part
  name
  ofJson? found := (Json.asNat? bits found).map ofNat
  key
  ofText? text := (Decimal.natInRange? textBits lo hi text).map ofNat
  default

/-- The address that the listener binds to. -/
def host : Setting String := .text "server" "host" "TALLY_HOST" "0.0.0.0"

/-- The port of the listener. -/
def port : Setting UInt16 := .number "server" "port" 16 "TALLY_PORT" 16 0 65535 .ofNat 8080

/-- How long a stop waits for tasks. -/
def shutdownTimeoutMs : Setting UInt64 :=
  .number "server" "shutdownTimeoutMs" 64 "TALLY_SHUTDOWN_TIMEOUT_MS" 64 100 600000 .ofNat 10000

/-- The number of streams that can be open at once. -/
def maxConnections : Setting UInt64 :=
  .number "stream" "maxConnections" 64 "TALLY_MAX_CONNECTIONS" 64 1 10000000 .ofNat 100000

/-- The number of events that can wait for a client. -/
def queueCapacity : Setting UInt64 :=
  .number "stream" "queueCapacity" 64 "TALLY_QUEUE_CAPACITY" 64 1 65536 .ofNat 10

/-- The number of drops in a row that close a stream. -/
def maxConsecutiveDrops : Setting UInt32 :=
  .number "stream" "maxConsecutiveDrops" 32 "TALLY_MAX_CONSECUTIVE_DROPS" 64 1 1000000 .ofNat 32

/-- The silence after which a stream is closed. -/
def idleTimeoutMs : Setting UInt64 :=
  .number "stream" "idleTimeoutMs" 64 "TALLY_IDLE_TIMEOUT_MS" 64 100 86400000 .ofNat 60000

/-- The time between two looks at a stream. -/
def detectionIntervalMs : Setting UInt64 :=
  .number "stream" "detectionIntervalMs" 64 "TALLY_DETECTION_INTERVAL_MS" 64 10 600000 .ofNat 1000

/-- A period of zero turns keepalives off. -/
def keepaliveIntervalMs : Setting UInt64 :=
  .number "stream" "keepaliveIntervalMs" 64 "TALLY_KEEPALIVE_INTERVAL_MS" 64 0 3600000 .ofNat 15000

/-- The time that a write may take. -/
def writeTimeoutMs : Setting UInt64 :=
  .number "stream" "writeTimeoutMs" 64 "TALLY_WRITE_TIMEOUT_MS" 64 10 600000 .ofNat 1000

/-- The least severe messages that are logged. -/
def level : Setting String := .text "logging" "level" "TALLY_LOG_LEVEL" "info"

/-- The log format; a variable chooses it leniently. -/
def format : Setting LogFormat where
  part := "logging"
  name := "format"
  ofJson? := Json.asFormat?
  key := "TALLY_LOG_FORMAT"
  ofText? text := if text.isEmpty then none else LogFormat.parse? text
  default := .compact

end Setting

/-- All known fields that a file holds are of their declared types. -/
structure Settings.WellTyped (file : List (String × Json)) : Prop where
  host : Setting.host.Fits file
  port : Setting.port.Fits file
  shutdownTimeoutMs : Setting.shutdownTimeoutMs.Fits file
  maxConnections : Setting.maxConnections.Fits file
  queueCapacity : Setting.queueCapacity.Fits file
  maxConsecutiveDrops : Setting.maxConsecutiveDrops.Fits file
  idleTimeoutMs : Setting.idleTimeoutMs.Fits file
  detectionIntervalMs : Setting.detectionIntervalMs.Fits file
  keepaliveIntervalMs : Setting.keepaliveIntervalMs.Fits file
  writeTimeoutMs : Setting.writeTimeoutMs.Fits file
  level : Setting.level.Fits file
  format : Setting.format.Fits file

/-- The settings with each field from the first of its own sources. -/
def Settings.layered (file : List (String × Json)) (environment : Environment) : Settings where
  server := {
    host := Setting.host.layered file environment
    port := Setting.port.layered file environment
    shutdownTimeoutMs := Setting.shutdownTimeoutMs.layered file environment }
  stream := {
    maxConnections := Setting.maxConnections.layered file environment
    queueCapacity := Setting.queueCapacity.layered file environment
    maxConsecutiveDrops := Setting.maxConsecutiveDrops.layered file environment
    idleTimeoutMs := Setting.idleTimeoutMs.layered file environment
    detectionIntervalMs := Setting.detectionIntervalMs.layered file environment
    keepaliveIntervalMs := Setting.keepaliveIntervalMs.layered file environment
    writeTimeoutMs := Setting.writeTimeoutMs.layered file environment }
  logging := {
    level := Setting.level.layered file environment
    format := Setting.format.layered file environment }

/-! ### The environment over settings -/

namespace Override

variable {α : Type} {environment : Environment} {settings : Settings}

/-- What a variable makes of the settings. -/
def effect (environment : Environment) (settings : Settings) (entry : Override) : Settings :=
  match environment entry.key with
  | none => settings
  | some value => (entry.apply value settings).toOption.getD settings

/-- Warnings do not bear on what a variable makes of the settings. -/
theorem step_fst (sofar : Settings × List OverrideWarning) (entry : Override) :
    (step environment sofar entry).1 = effect environment sofar.1 entry := by
  simp only [step, effect]
  cases environment entry.key with
  | none => rfl
  | some value =>
    dsimp only
    cases entry.apply value sofar.1 <;> rfl

/-- The warnings play no part in what becomes of the settings. -/
theorem foldl_step_fst (entries : List Override) (sofar : Settings × List OverrideWarning) :
    (entries.foldl (step environment) sofar).1 = entries.foldl (effect environment) sofar.1 := by
  induction entries generalizing sofar with
  | nil => rfl
  | cons entry entries ih => rw [List.foldl_cons, ih, step_fst, List.foldl_cons]

/-- Variables take effect one after the other. -/
theorem foldl_effect_cons {entry : Override} {entries : List Override} {next : Settings}
    (h : effect environment settings entry = next) :
    (entry :: entries).foldl (effect environment) settings =
      entries.foldl (effect environment) next := by
  rw [List.foldl_cons, h]

/-- A variable that holds a text settles its field, in the settings that `put` makes of it. -/
theorem effect_text (setting : Setting String) (put : String → Settings) (current : String)
    {set : String → Settings → Settings}
    (htext : ∀ value, setting.ofText? value = if value.isEmpty then none else some value)
    (hset : ∀ value, set value (put current) = put value) :
    effect environment (put current) (text setting.key set) =
      put (setting.resolve environment current) := by
  simp only [effect, text, Setting.resolve]
  cases environment setting.key with
  | none => rfl
  | some value =>
    simp only [Except.toOption, Option.getD_some, Option.bind_some, htext]
    split
    · rfl
    · exact hset value

/-- A variable that holds a number settles its field, in the settings that `put` makes of it. -/
theorem effect_number (setting : Setting α) (ofNat : Nat → α) (put : α → Settings) (current : α)
    {type : String} {bits lo hi : Nat} {set : Nat → Settings → Settings}
    (hnumber : ∀ value, setting.ofText? value = (Decimal.natInRange? bits lo hi value).map ofNat)
    (hset : ∀ n, set n (put current) = put (ofNat n)) :
    effect environment (put current) (number setting.key type bits lo hi set) =
      put (setting.resolve environment current) := by
  simp only [effect, number, Setting.resolve]
  cases environment setting.key with
  | none => rfl
  | some value =>
    simp only [Option.bind_some, hnumber]
    cases Decimal.natInRange? bits lo hi value with
    | none => rfl
    | some n => exact hset n

/-- The variable of the log format puts what it resolves to in place of the current one. -/
theorem effect_format (put : LogFormat → Settings) (current : LogFormat)
    (hset : ∀ format, { put current with logging := { (put current).logging with format } } =
      put format) :
    effect environment (put current) (format Setting.format.key) =
      put (Setting.format.resolve environment current) := by
  simp only [effect, format, Setting.resolve]
  cases environment Setting.format.key with
  | none => rfl
  | some value =>
    simp only [Option.bind_some, Setting.format]
    split
    · rfl
    · cases LogFormat.parse? value with
      | none => rfl
      | some format => exact hset format

end Override

/-- The environment settles each field by its own variable. -/
theorem Settings.override_fst (settings : Settings) (environment : Environment) :
    (settings.override environment).1 = {
      server := {
        host := Setting.host.resolve environment settings.server.host
        port := Setting.port.resolve environment settings.server.port
        shutdownTimeoutMs :=
          Setting.shutdownTimeoutMs.resolve environment settings.server.shutdownTimeoutMs }
      stream := {
        maxConnections := Setting.maxConnections.resolve environment settings.stream.maxConnections
        queueCapacity := Setting.queueCapacity.resolve environment settings.stream.queueCapacity
        maxConsecutiveDrops :=
          Setting.maxConsecutiveDrops.resolve environment settings.stream.maxConsecutiveDrops
        idleTimeoutMs := Setting.idleTimeoutMs.resolve environment settings.stream.idleTimeoutMs
        detectionIntervalMs :=
          Setting.detectionIntervalMs.resolve environment settings.stream.detectionIntervalMs
        keepaliveIntervalMs :=
          Setting.keepaliveIntervalMs.resolve environment settings.stream.keepaliveIntervalMs
        writeTimeoutMs :=
          Setting.writeTimeoutMs.resolve environment settings.stream.writeTimeoutMs }
      logging := {
        level := Setting.level.resolve environment settings.logging.level
        format := Setting.format.resolve environment settings.logging.format } } := by
  obtain ⟨⟨host, port, shutdown⟩,
    ⟨connections, capacity, drops, idle, detection, keepalive, write⟩, ⟨level, format⟩⟩ := settings
  refine (Override.foldl_step_fst Override.all _).trans ?_
  refine (Override.foldl_effect_cons (Override.effect_text Setting.host
    (fun host => ⟨⟨host, _, _⟩, _, _⟩) host (fun _ => rfl) fun _ => rfl)).trans ?_
  refine (Override.foldl_effect_cons (Override.effect_number Setting.port .ofNat
    (fun port => ⟨⟨_, port, _⟩, _, _⟩) port (fun _ => rfl) fun _ => rfl)).trans ?_
  refine (Override.foldl_effect_cons (Override.effect_number Setting.shutdownTimeoutMs .ofNat
    (fun shutdown => ⟨⟨_, _, shutdown⟩, _, _⟩) shutdown (fun _ => rfl) fun _ => rfl)).trans ?_
  refine (Override.foldl_effect_cons (Override.effect_number Setting.maxConnections .ofNat
    (fun connections => ⟨_, ⟨connections, _, _, _, _, _, _⟩, _⟩) connections (fun _ => rfl)
    fun _ => rfl)).trans ?_
  refine (Override.foldl_effect_cons (Override.effect_number Setting.queueCapacity .ofNat
    (fun capacity => ⟨_, ⟨_, capacity, _, _, _, _, _⟩, _⟩) capacity (fun _ => rfl)
    fun _ => rfl)).trans ?_
  refine (Override.foldl_effect_cons (Override.effect_number Setting.maxConsecutiveDrops .ofNat
    (fun drops => ⟨_, ⟨_, _, drops, _, _, _, _⟩, _⟩) drops (fun _ => rfl) fun _ => rfl)).trans ?_
  refine (Override.foldl_effect_cons (Override.effect_number Setting.idleTimeoutMs .ofNat
    (fun idle => ⟨_, ⟨_, _, _, idle, _, _, _⟩, _⟩) idle (fun _ => rfl) fun _ => rfl)).trans ?_
  refine (Override.foldl_effect_cons (Override.effect_number Setting.detectionIntervalMs .ofNat
    (fun detection => ⟨_, ⟨_, _, _, _, detection, _, _⟩, _⟩) detection (fun _ => rfl)
    fun _ => rfl)).trans ?_
  refine (Override.foldl_effect_cons (Override.effect_number Setting.keepaliveIntervalMs .ofNat
    (fun keepalive => ⟨_, ⟨_, _, _, _, _, keepalive, _⟩, _⟩) keepalive (fun _ => rfl)
    fun _ => rfl)).trans ?_
  refine (Override.foldl_effect_cons (Override.effect_number Setting.writeTimeoutMs .ofNat
    (fun write => ⟨_, ⟨_, _, _, _, _, _, write⟩, _⟩) write (fun _ => rfl) fun _ => rfl)).trans ?_
  refine (Override.foldl_effect_cons (Override.effect_text Setting.level
    (fun level => ⟨_, _, ⟨level, _⟩⟩) level (fun _ => rfl) fun _ => rfl)).trans ?_
  refine (Override.foldl_effect_cons (Override.effect_format
    (fun format => ⟨_, _, ⟨_, format⟩⟩) format fun _ => rfl)).trans ?_
  rfl

/-! ### The file over the defaults -/

/-- The members of a section of a canonical file stand in their order as well. -/
theorem Json.ordered_sectionOf {file : List (String × Json)} (hfile : (Json.obj file).Canonical)
    (name : String) : Ordered (sectionOf name file) := by
  rw [sectionOf]
  split
  · next members hfound => exact ((canonical_obj_iff.mp hfile).2 _ (mem_of_find? hfound)).ordered
  · exact List.Pairwise.nil

namespace Setting

variable {α β γ : Type} {file : List (String × Json)}

/-- The value of the setting after the file, if the file has one of the declared type or none. -/
def inFile? (setting : Setting α) (file : List (String × Json)) : Option α :=
  match setting.given? file with
  | none => some setting.default
  | some found => setting.ofJson? found

/-- A file gives the setting its value if what it holds fits. -/
theorem inFile?_eq_some_iff {setting : Setting α} {value : α} :
    setting.inFile? file = some value ↔ setting.Fits file ∧ setting.inFile file = value := by
  simp only [inFile?, Fits, inFile]
  cases setting.given? file with
  | none => simp
  | some found => cases hread : setting.ofJson? found <;> simp [hread]

/-- What a section laid over its defaults holds for a setting. The default stands as `encoded` in
it; `ofRaw` makes the field of what is decoded. -/
theorem at_mergeMembers {setting : Setting α} {name part : String} {schema : Schema β}
    {ofRaw : β → α} {raw : β} {encoded : Json} {lower : List (String × Json)}
    (hfile : (Json.obj file).Canonical) (hname : setting.name = name) (hpart : setting.part = part)
    (hschema : ∀ found, (schema.ofJson found).toOption.map ofRaw = setting.ofJson? found)
    (hencoded : Json.find? name lower = some encoded) (hscalar : ∀ members, encoded ≠ .obj members)
    (hdefault : setting.ofJson? encoded = some setting.default) :
    (schema.at name raw (Json.mergeMembers lower (Json.sectionOf part file))).toOption.map ofRaw =
      setting.inFile? file := by
  subst hname hpart
  rw [Schema.at, Json.find?_mergeMembers (Json.ordered_sectionOf hfile _), hencoded, inFile?,
    given?]
  have hbelow : (schema.ofJson encoded).toOption.map ofRaw = some setting.default := by
    rw [hschema, hdefault]
  cases Json.find? setting.name (Json.sectionOf setting.part file) with
  | none => exact hbelow
  | some found =>
    cases found with
    | null => exact hbelow
    | _ =>
      simp only [Json.overlay, Json.merge_eq_upper hscalar]
      exact hschema _

/-- Decoding that goes on with a field goes on with the value of its setting. -/
theorem bind_toOption {first : Except Json.Fault β} {next : β → Except Json.Fault γ}
    {value : Option α} (ofRaw : β → α) {next' : α → Option γ}
    (hfirst : first.toOption.map ofRaw = value)
    (hnext : ∀ raw, (next raw).toOption = next' (ofRaw raw)) :
    (first >>= next).toOption = value >>= next' := by
  subst hfirst
  cases first with
  | error fault => rfl
  | ok raw => exact hnext raw

end Setting

section Decoding

variable {file : List (String × Json)}

/-- Texts are decoded by the schema as they are read. -/
theorem asText?_eq_toOption (found : Json) :
    (Schema.text.ofJson found).toOption.map id = found.asText? := by
  cases found <;> rfl

/-- Numbers are decoded by the schema as they are read. -/
theorem asNat?_eq_toOption {α : Type} (type : String) (bits : Nat) (ofNat : Nat → α)
    (found : Json) :
    ((Schema.word type bits).ofJson found).toOption.map ofNat =
      (Json.asNat? bits found).map ofNat := by
  cases found with
  | int value =>
    simp only [Schema.word, Json.asNat?]
    split <;> rfl
  | _ => rfl

/-- A log format is chosen by its name. -/
theorem choose_eq_toOption (name : String) :
    (Schema.choose ([.compact, .json].map fun format : LogFormat => (format.name, format))
      name).toOption = LogFormat.ofName? name := by
  by_cases hcompact : name = "compact"
  · subst hcompact
    rfl
  · by_cases hjson : name = "json"
    · subst hjson
      rfl
    · simp [Schema.choose, LogFormat.ofName?, LogFormat.name, Except.toOption, List.find?,
        beq_false_of_ne (Ne.symm hcompact), beq_false_of_ne (Ne.symm hjson)]

/-- Log formats are decoded by the schema as they are read. -/
theorem asFormat?_eq_toOption (found : Json) :
    (LogFormat.schema.ofJson found).toOption.map id = found.asFormat? := by
  rw [Option.map_id_fun, id]
  match found with
  | .str name => exact choose_eq_toOption name
  | .obj [(name, beside)] =>
    have hname := choose_eq_toOption name
    simp only [LogFormat.schema, Schema.choice]
    cases hchoose : Schema.choose _ name with
    | error fault =>
      rw [hchoose] at hname
      cases beside <;> first | rfl | exact hname
    | ok format =>
      rw [hchoose] at hname
      cases beside <;> first | rfl | exact hname
  | .obj [] => rfl
  | .obj ((name, beside) :: second :: rest) => cases beside <;> rfl
  | .null | .bool _ | .int _ | .float _ | .arr _ => rfl

/-! A section that is laid over its defaults is decoded field by field, each from what the file
holds for it alone. -/

/-- Decoding the section over its defaults reads each field from the file, or else its default. -/
theorem ServerSettings.ofJson_mergeMembers (hfile : (Json.obj file).Canonical) :
    (schema.ofJson (.obj (Json.mergeMembers defaults (Json.sectionOf "server" file)))).toOption =
      (do
        let host ← Setting.host.inFile? file
        let port ← Setting.port.inFile? file
        let shutdownTimeoutMs ← Setting.shutdownTimeoutMs.inFile? file
        return { host, port, shutdownTimeoutMs }) := by
  rw [ofJson_obj ordered_defaults.mergeMembers]
  refine Setting.bind_toOption _ ?host fun host => Setting.bind_toOption _ ?port fun port =>
    Setting.bind_toOption _ ?timeout fun timeout => rfl
  case host =>
    exact Setting.at_mergeMembers hfile rfl rfl asText?_eq_toOption rfl
      (fun _ => Json.noConfusion) rfl
  all_goals
    exact Setting.at_mergeMembers hfile rfl rfl (asNat?_eq_toOption _ _ _) rfl
      (fun _ => Json.noConfusion) rfl

/-- Decoding the section over its defaults reads each field from the file, or else its default. -/
theorem StreamSettings.ofJson_mergeMembers (hfile : (Json.obj file).Canonical) :
    (schema.ofJson (.obj (Json.mergeMembers defaults (Json.sectionOf "stream" file)))).toOption =
      (do
        let detectionIntervalMs ← Setting.detectionIntervalMs.inFile? file
        let idleTimeoutMs ← Setting.idleTimeoutMs.inFile? file
        let keepaliveIntervalMs ← Setting.keepaliveIntervalMs.inFile? file
        let maxConnections ← Setting.maxConnections.inFile? file
        let maxConsecutiveDrops ← Setting.maxConsecutiveDrops.inFile? file
        let queueCapacity ← Setting.queueCapacity.inFile? file
        let writeTimeoutMs ← Setting.writeTimeoutMs.inFile? file
        return { maxConnections, queueCapacity, maxConsecutiveDrops, idleTimeoutMs,
                 detectionIntervalMs, keepaliveIntervalMs, writeTimeoutMs }) := by
  rw [ofJson_obj ordered_defaults.mergeMembers]
  refine Setting.bind_toOption _ ?_ fun detection => Setting.bind_toOption _ ?_ fun idle =>
    Setting.bind_toOption _ ?_ fun keepalive => Setting.bind_toOption _ ?_ fun connections =>
    Setting.bind_toOption _ ?_ fun drops => Setting.bind_toOption _ ?_ fun capacity =>
    Setting.bind_toOption _ ?_ fun timeout => rfl
  all_goals
    exact Setting.at_mergeMembers hfile rfl rfl (asNat?_eq_toOption _ _ _) rfl
      (fun _ => Json.noConfusion) rfl

/-- Decoding the section over its defaults reads each field from the file, or else its default. -/
theorem LoggingSettings.ofJson_mergeMembers (hfile : (Json.obj file).Canonical) :
    (schema.ofJson (.obj (Json.mergeMembers defaults (Json.sectionOf "logging" file)))).toOption =
      (do
        let format ← Setting.format.inFile? file
        let level ← Setting.level.inFile? file
        return { level, format }) := by
  rw [ofJson_obj ordered_defaults.mergeMembers]
  refine Setting.bind_toOption _ ?format fun format =>
    Setting.bind_toOption _ ?level fun level => rfl
  case format =>
    exact Setting.at_mergeMembers hfile rfl rfl asFormat?_eq_toOption rfl
      (fun _ => Json.noConfusion) rfl
  case level =>
    exact Setting.at_mergeMembers hfile rfl rfl asText?_eq_toOption rfl
      (fun _ => Json.noConfusion) rfl

/-- The section over its defaults, where it stands in the file over the defaults. -/
theorem find?_section {name : String} {lower sub : List (String × Json)} (hfile : Ordered file)
    (hsection : Json.IsSection name file) (hsub : Json.find? name lower = some (.obj sub)) :
    Json.find? name (Json.mergeMembers lower file) =
      some (.obj (Json.mergeMembers sub (Json.sectionOf name file))) := by
  rw [Json.find?_mergeMembers hfile, hsub, Json.sectionOf]
  cases hfound : Json.find? name file with
  | none => rfl
  | some found =>
    obtain rfl | ⟨members, rfl⟩ := hsection found hfound
    · rfl
    · rfl

end Decoding

/-- A file that holds the bytes of a text has that text. -/
theorem SettingsFile.text?_bytes (text : String) :
    (SettingsFile.bytes text.toUTF8).text? = .ok (some text) := by
  have hvalid : String.fromUTF8? text.toUTF8 = some text := dif_pos text.isValidUTF8
  rw [SettingsFile.text?, hvalid]

namespace Settings

variable {text : String} {file : List (String × Json)}

/-- The sections of the file are missing, `null` or objects. -/
structure HasSections (file : List (String × Json)) : Prop where
  server : Json.IsSection "server" file
  stream : Json.IsSection "stream" file
  logging : Json.IsSection "logging" file

/-- The settings with each field from the file, or else from its default. -/
def inFile (file : List (String × Json)) : Settings where
  server := {
    host := Setting.host.inFile file
    port := Setting.port.inFile file
    shutdownTimeoutMs := Setting.shutdownTimeoutMs.inFile file }
  stream := {
    maxConnections := Setting.maxConnections.inFile file
    queueCapacity := Setting.queueCapacity.inFile file
    maxConsecutiveDrops := Setting.maxConsecutiveDrops.inFile file
    idleTimeoutMs := Setting.idleTimeoutMs.inFile file
    detectionIntervalMs := Setting.detectionIntervalMs.inFile file
    keepaliveIntervalMs := Setting.keepaliveIntervalMs.inFile file
    writeTimeoutMs := Setting.writeTimeoutMs.inFile file }
  logging := {
    level := Setting.level.inFile file
    format := Setting.format.inFile file }

/-- The sections are decoded one by one, each over its own defaults. -/
theorem overDefaults_toOption (hparse : Json.parse text = .ok (.obj file))
    (hsections : HasSections file) :
    (overDefaults text).toOption = (do
      let logging ← (LoggingSettings.schema.ofJson (.obj (Json.mergeMembers
        LoggingSettings.defaults (Json.sectionOf "logging" file)))).toOption
      let server ← (ServerSettings.schema.ofJson (.obj (Json.mergeMembers
        ServerSettings.defaults (Json.sectionOf "server" file)))).toOption
      let stream ← (StreamSettings.schema.ofJson (.obj (Json.mergeMembers
        StreamSettings.defaults (Json.sectionOf "stream" file)))).toOption
      return { server, stream, logging }) := by
  have hordered : Ordered file := (Json.canonical_of_parse hparse).ordered
  have hdecoded : overDefaults text = schema.ofJson (.obj (Json.mergeMembers defaults file)) := by
    rw [overDefaults, hparse]
    rfl
  rw [hdecoded, ofJson_obj ordered_defaults.mergeMembers]
  refine Setting.bind_toOption id ?logging fun logging =>
    Setting.bind_toOption id ?server fun server =>
    Setting.bind_toOption id ?stream fun stream => rfl
  case logging =>
    rw [Schema.at, find?_section hordered hsections.logging rfl, Option.map_id_fun, id]
  case server =>
    rw [Schema.at, find?_section hordered hsections.server rfl, Option.map_id_fun, id]
  case stream =>
    rw [Schema.at, find?_section hordered hsections.stream rfl, Option.map_id_fun, id]

/-- A file denotes settings exactly if all its known fields are of their declared types. -/
theorem overDefaults_eq_ok_iff (hparse : Json.parse text = .ok (.obj file))
    (hsections : HasSections file) {settings : Settings} :
    overDefaults text = .ok settings ↔ WellTyped file ∧ inFile file = settings := by
  have hfile : (Json.obj file).Canonical := Json.canonical_of_parse hparse
  have hoption : overDefaults text = .ok settings ↔
      (overDefaults text).toOption = some settings := by
    cases overDefaults text <;> simp [Except.toOption]
  rw [hoption, overDefaults_toOption hparse hsections, LoggingSettings.ofJson_mergeMembers hfile,
    ServerSettings.ofJson_mergeMembers hfile, StreamSettings.ofJson_mergeMembers hfile]
  simp only [Option.bind_eq_bind, Option.bind_eq_some_iff, Setting.inFile?_eq_some_iff,
    Option.pure_def, Option.some.injEq]
  constructor
  · rintro ⟨_, ⟨_, ⟨hformat, rfl⟩, _, ⟨hlevel, rfl⟩, rfl⟩,
      _, ⟨_, ⟨hhost, rfl⟩, _, ⟨hport, rfl⟩, _, ⟨hshutdown, rfl⟩, rfl⟩,
      _, ⟨_, ⟨hdetection, rfl⟩, _, ⟨hidle, rfl⟩, _, ⟨hkeepalive, rfl⟩, _, ⟨hconnections, rfl⟩,
        _, ⟨hdrops, rfl⟩, _, ⟨hcapacity, rfl⟩, _, ⟨hwrite, rfl⟩, rfl⟩, rfl⟩
    exact ⟨⟨hhost, hport, hshutdown, hconnections, hcapacity, hdrops, hidle, hdetection, hkeepalive,
      hwrite, hlevel, hformat⟩, rfl⟩
  · rintro ⟨h, rfl⟩
    exact ⟨_, ⟨_, ⟨h.format, rfl⟩, _, ⟨h.level, rfl⟩, rfl⟩,
      _, ⟨_, ⟨h.host, rfl⟩, _, ⟨h.port, rfl⟩, _, ⟨h.shutdownTimeoutMs, rfl⟩, rfl⟩,
      _, ⟨_, ⟨h.detectionIntervalMs, rfl⟩, _, ⟨h.idleTimeoutMs, rfl⟩,
        _, ⟨h.keepaliveIntervalMs, rfl⟩, _, ⟨h.maxConnections, rfl⟩,
        _, ⟨h.maxConsecutiveDrops, rfl⟩, _, ⟨h.queueCapacity, rfl⟩, _, ⟨h.writeTimeoutMs, rfl⟩,
        rfl⟩, rfl⟩

/-- What is loaded from a text is what the environment makes of it, if that is valid. -/
theorem load_eq_ok_iff {source : SettingsFile} (htext : source.text? = .ok (some text))
    {environment : Environment} {settings : Settings} :
    (load source environment).1 = .ok settings ↔ ∃ below, overDefaults text = .ok below ∧
      (below.override environment).1 = settings ∧ settings.fault? = none := by
  simp only [load, ofFile, htext]
  cases overDefaults text with
  | error fault => simp
  | ok below =>
    simp only [validated, Except.ok.injEq, exists_eq_left']
    cases hfault : (below.override environment).1.fault? with
    | none =>
      simp only [Except.ok.injEq]
      exact ⟨fun h => ⟨h, h ▸ hfault⟩, fun h => h.1⟩
    | some fault =>
      simp only [reduceCtorEq, false_iff]
      rintro ⟨rfl, hvalid⟩
      exact Option.some_ne_none _ (hfault.symm.trans hvalid)

/-- The settings are put together field by field, each field from its own sources. They are loaded
exactly if all known fields of the file are of their declared types and the settings as a whole are
valid. -/
theorem load_eq_layered {source : SettingsFile} (htext : source.text? = .ok (some text))
    (hparse : Json.parse text = .ok (.obj file)) (hsections : HasSections file)
    (environment : Environment) :
    ((∃ settings, (load source environment).1 = .ok settings) ↔
        WellTyped file ∧ (layered file environment).fault? = none) ∧
      ∀ settings, (load source environment).1 = .ok settings →
        settings = layered file environment := by
  have hlayered : ((inFile file).override environment).1 = layered file environment :=
    override_fst _ _
  have hload (settings : Settings) : (load source environment).1 = .ok settings ↔
      WellTyped file ∧ layered file environment = settings ∧ settings.fault? = none := by
    rw [load_eq_ok_iff htext]
    simp only [overDefaults_eq_ok_iff hparse hsections, and_assoc, exists_and_left,
      exists_eq_left', hlayered]
  constructor
  · constructor
    · rintro ⟨settings, h⟩
      obtain ⟨htyped, rfl, hvalid⟩ := (hload settings).mp h
      exact ⟨htyped, hvalid⟩
    · rintro ⟨htyped, hvalid⟩
      exact ⟨_, (hload _).mpr ⟨htyped, rfl, hvalid⟩⟩
  · intro settings h
    exact ((hload settings).mp h).2.1.symm

/-- Two sections are as good as missing, and so is the host. The file alone would not be valid, with
keepalives rarer than the tolerated silence; its variable turns them off. The variable for the port
is out of range, so the port of the file stays. -/
theorem load_eq_layered_of_three_sources :
    let text := "\x7b\"color\":[1],\"logging\":null," ++
      "\"server\":\x7b\"host\":null,\"port\":9000\x7d," ++
      "\"stream\":\x7b\"keepaliveIntervalMs\":70000,\"maxConsecutiveDrops\":7\x7d\x7d"
    let file : List (String × Json) := [
      ("color", .arr [.int 1]),
      ("logging", .null),
      ("server", .obj [("host", .null), ("port", .int 9000)]),
      ("stream", .obj [("keepaliveIntervalMs", .int 70000), ("maxConsecutiveDrops", .int 7)])]
    let environment : Environment := fun key =>
      if key = "TALLY_KEEPALIVE_INTERVAL_MS" then some "0"
      else if key = "TALLY_PORT" then some "65536"
      else if key = "TALLY_LOG_FORMAT" then some "JSON" else none
    (SettingsFile.bytes text.toUTF8).text? = .ok (some text) ∧
      Json.parse text = .ok (.obj file) ∧ HasSections file ∧
      (load (.bytes text.toUTF8) environment).1 = .ok {
        server := { port := 9000 }
        stream := { keepaliveIntervalMs := 0, maxConsecutiveDrops := 7 }
        logging := { format := .json } } := by
  intro text file environment
  have htext : (SettingsFile.bytes text.toUTF8).text? = .ok (some text) :=
    SettingsFile.text?_bytes text
  have hparse : Json.parse text = .ok (.obj file) := by
    simp only [text, file]
    cbv
  have hsections : HasSections file := by
    constructor <;> simp [file, Json.IsSection, Json.find?]
  have htyped : WellTyped file := by
    constructor <;> decide +kernel
  have hvalid : (layered file environment).fault? = none := by decide +kernel
  obtain ⟨hloads, hlayered⟩ := load_eq_layered htext hparse hsections environment
  obtain ⟨settings, hloaded⟩ := hloads.mpr ⟨htyped, hvalid⟩
  refine ⟨htext, hparse, hsections, ?_⟩
  rw [hloaded, hlayered settings hloaded]
  exact congrArg Except.ok (by decide +kernel)

end Settings

end LiveCounter
