import LiveCounter.Settings.Load

/-!
# Command-line options

Three options take a value, which stands in the next word or behind an equals sign; besides them
there is a request for help. A word that starts with a dash is no value, except the dash alone.

The words are read from the left, and the first fault counts. The value of an option is looked at
when the next option is reached or the words have ended, so a word that nobody expects is reported
even if the value before it is wrong.
-/

namespace LiveCounter

/-- An option that takes a value. -/
inductive Flag where
  | host
  | port
  | config
  deriving DecidableEq, Repr

namespace Flag

/-- The name of an option. -/
def name : Flag → String
  | .host => "host"
  | .port => "port"
  | .config => "config"

/-- An option with the place of its value. -/
def usage : Flag → String
  | .host => "--host <HOST>"
  | .port => "--port <PORT>"
  | .config => "--config <CONFIG>"

/-- The option of a name. -/
def ofName? : String → Option Flag
  | "host" => some .host
  | "port" => some .port
  | "config" => some .config
  | _ => none

end Flag

/-- Why a text is no port. -/
inductive PortFault where
  | notNumber (fault : Decimal.Fault)
  | outOfRange (value : Int)
  deriving DecidableEq, Repr

/-- The wording of a refused port. -/
def PortFault.message : PortFault → String
  | .notNumber fault => fault.message
  | .outOfRange value => toString value ++ " is not in 0..=65535"

/-- The port that a text denotes. It is read as a number of 64 bits first. -/
def readPort (text : String) : Except PortFault UInt16 :=
  match Decimal.readInt 64 text.toList with
  | .error fault => .error (.notNumber fault)
  | .ok value =>
    if 0 ≤ value ∧ value ≤ 65535 then .ok (.ofNat value.toNat) else .error (.outOfRange value)

/-- Why the words of a command line are refused. -/
inductive UsageFault where
  | unexpected (word : String)
  | valueForHelp (value : String)
  | missingValue (flag : Flag)
  | repeated (flag : Flag)
  | badPort (text : String) (fault : PortFault)
  deriving DecidableEq, Repr

/-- The wording of a refused command line. -/
def UsageFault.message : UsageFault → String
  | .unexpected word => "unexpected argument '" ++ word ++ "' found"
  | .valueForHelp value =>
    "unexpected value '" ++ value ++ "' for '--help' found; no more were expected"
  | .missingValue flag => "a value is required for '" ++ flag.usage ++ "' but none was supplied"
  | .repeated flag => "the argument '" ++ flag.usage ++ "' cannot be used multiple times"
  | .badPort text fault =>
    "invalid value '" ++ text ++ "' for '" ++ Flag.port.usage ++ "': " ++ fault.message

/-- What the options say. -/
structure Options where
  host : Option String := none
  port : Option UInt16 := none
  config : Option String := none
  deriving DecidableEq, Repr

namespace Options

/-- Whether an option has its value already. -/
def has (options : Options) : Flag → Bool
  | .host => options.host.isSome
  | .port => options.port.isSome
  | .config => options.config.isSome

/-- Gives an option its value. The path of a file may not be empty. -/
def put (options : Options) (flag : Flag) (value : String) : Except UsageFault Options :=
  if options.has flag then .error (.repeated flag)
  else
    match flag with
    | .host => .ok { options with host := some value }
    | .port =>
      match readPort value with
      | .ok port => .ok { options with port := some port }
      | .error fault => .error (.badPort value fault)
    | .config =>
      if value.isEmpty then .error (.missingValue .config)
      else .ok { options with config := some value }

/-- The settings with what the options say in the place of what they held. -/
def applyTo (options : Options) (settings : Settings) : Settings :=
  { settings with
    server :=
      { settings.server with
        host := options.host.getD settings.server.host
        port := options.port.getD settings.server.port } }

/-- The path of the settings file. -/
def filePath (options : Options) (home : Option String) : String :=
  options.config.getD (Settings.path home)

end Options

/-- What a command line asks for. -/
inductive Command where
  | help
  | serve (options : Options)
  deriving DecidableEq, Repr

namespace Command

/-- What a word of the command line looks like. -/
inductive Word where
  /-- Two dashes: no option follows. -/
  | dashes
  | long (name : String) (value : Option String)
  | short (letter : Char)
  | plain (text : String)
  deriving DecidableEq, Repr

/-- The look of a word. -/
def Word.ofText (text : String) : Word :=
  match text.toList with
  | ['-', '-'] => .dashes
  | '-' :: '-' :: body =>
    let name := String.ofList (body.takeWhile (· != '='))
    match body.dropWhile (· != '=') with
    | [] => .long name none
    | _ :: value => .long name (some (String.ofList value))
  | '-' :: letter :: _ => .short letter
  | _ => .plain text

/-- How far a command line has been read. -/
structure Scan where
  options : Options := {}
  /-- The last option, with the word after it. -/
  pending : Option (Flag × Option String) := none

/-- The options once the last one has its value. -/
def Scan.settled (scan : Scan) : Except UsageFault Options :=
  match scan.pending with
  | none => .ok scan.options
  | some (flag, none) => .error (.missingValue flag)
  | some (flag, some value) => scan.options.put flag value

/-- Reads words from a point on. -/
def Scan.read (scan : Scan) : List String → Except UsageFault Command
  | [] => return .serve (← scan.settled)
  | word :: rest =>
    match Word.ofText word with
    | .dashes =>
      match rest with
      | [] => return .serve (← scan.settled)
      | next :: _ => .error (.unexpected next)
    | .long "help" (some value) => .error (.valueForHelp value)
    | .long "help" none | .short 'h' => do
      let _ ← scan.settled
      return .help
    | .long name value =>
      match Flag.ofName? name with
      | none => .error (.unexpected ("--" ++ name))
      | some flag => do
        let options ← scan.settled
        match value with
        | none => Scan.read { options, pending := some (flag, none) } rest
        | some value => Scan.read { options := ← options.put flag value } rest
    | .short letter => .error (.unexpected (String.ofList ['-', letter]))
    | .plain text =>
      match scan.pending with
      | some (flag, none) => Scan.read { scan with pending := some (flag, some text) } rest
      | _ => .error (.unexpected text)

/-- What the words of a command line ask for. -/
def ofWords (words : List String) : Except UsageFault Command := Scan.read {} words

/-- The text that explains the options. -/
def helpText : String :=
  "Live hit counters over Server-Sent Events\n\n" ++
  "Usage: tally [OPTIONS]\n\n" ++
  "Options:\n" ++
  "      --host <HOST>      Host to bind (overrides settings)\n" ++
  "      --port <PORT>      Port to bind, 0 for auto-assign (overrides settings)\n" ++
  "      --config <CONFIG>  Settings file (defaults to \x60~/.tally/settings.json\x60)\n" ++
  "  -h, --help             Print help\n"

end Command

end LiveCounter
