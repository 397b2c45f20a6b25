import LiveCounter.Program.Console

/-!
# The program

Reads the options and the settings, starts the server, answers the requests that stand on the lines
of the standard input, and stops the server when the input ends. Reports go to the standard error.
-/

namespace LiveCounter.Program

/-- Draws random bits. -/
def drawBits : IO Nat := do
  let drawn ← IO.getRandomBytes 48
  return drawn.toList.foldl (fun n byte => 256 * n + byte.toNat) 0

/-- The variables that override settings. -/
def readEnvironment : IO Environment := do
  let values ← Override.all.mapM fun entry => return (entry.key, ← IO.getEnv entry.key)
  return fun name => (values.lookup name).join

/-- What stands at the path of the settings file. -/
def readSettingsFile (path : String) : IO SettingsFile :=
  try return .bytes (← IO.FS.readBinFile path)
  catch
    | .inappropriateType .. => return .directory
    | _ => return .absent

/-- Writes the log records of a server. -/
def writeLog (console : Console) : IO Console := do
  let (lines, console) := console.takeLog
  lines.forM fun line => IO.eprintln line
  return console

/-- Answers lines until the input ends. -/
partial def serveLines (input : IO.FS.Stream) (start : Nat) (console : Console) : IO Console := do
  let line ← input.getLine
  if line.isEmpty then return console
  let now ← IO.monoMsNow
  let (lines, console) := console.answer (now - start) (← drawBits) line.trimAsciiEnd.toString
  lines.forM fun line => IO.println line
  serveLines input start (← writeLog console)

/-- Serves with the given options. -/
def serve (options : Options) : IO UInt32 := do
  let home ← IO.getEnv "HOME"
  let file ← readSettingsFile (options.filePath home)
  let environment ← readEnvironment
  let started : Except Failure Running :=
    (settings options home file environment).bind fun settings => start settings {}
  match started with
  | .error failure =>
    failure.lines.forM fun line => IO.eprintln line
    return 1
  | .ok running =>
    let greeting := running.greeting
    let server := running.server.log greeting.level greeting.message greeting.fields
    let console ← writeLog { running := { running with server } }
    let console ← serveLines (← IO.getStdin) (← IO.monoMsNow) console
    let _ ← writeLog console.stop
    return 0

end LiveCounter.Program

open LiveCounter in
/-- Runs the program on the words of a command line. -/
def main (words : List String) : IO UInt32 := do
  match Command.ofWords words with
  | .error fault =>
    IO.eprintln ("error: " ++ fault.message)
    return 2
  | .ok .help =>
    IO.print Command.helpText
    return 0
  | .ok (.serve options) => Program.serve options
