import LinkGuard.Asset.Embedded
import LinkGuard.Command.Program
import LinkGuard.Endpoint.Service
import LinkGuard.Http.Wire
import Std.Time.DateTime.Timestamp

/-!
# The command line

The program takes its options from the arguments and the environment. Once it has started it serves
the requests of one connection, read from standard input and answered on standard output; whoever
listens on the network hands the connection over. The cache lives as long as the program, and the
API is out of reach of this process, so links that are not in the cache cannot be judged.
-/

open LinkGuard

namespace LinkGuard.Command

/-- The variables that the program reads. -/
def readEnvironment : IO Environment := do
  let names := Setting.all.filterMap Setting.environmentName? ++ [queriesVariable]
  let values ← names.mapM fun name => do return (← IO.getEnv name).map (name, ·)
  return values.filterMap id

/-- Every way to call the program. -/
def helpText : String :=
  let settings := Setting.all.map fun setting => "  --" ++ setting.name ++ " <value>"
  let switches := [Switch.logsQueries, Switch.debug].map fun switch => "  --" ++ switch.name
  let questions := [Question.help, Question.version].map fun question => "  --" ++ question.name
  "\n".intercalate ([summary, "", "Options:"] ++ settings ++ switches ++ questions)

/-- The text of an error chain. -/
def chainText : List String → String
  | [] => ""
  | [text] => "Error: " ++ text
  | text :: causes =>
    "\n".intercalate (["Error: " ++ text, "", "Caused by:"] ++ causes.map ("    " ++ ·))

/-- The present instant. -/
def present : IO Instant := do
  let now ← Std.Time.Timestamp.now
  let nanos := now.toNanosecondsSinceUnixEpoch.val
  return ⟨nanos / 1000000000, (nanos % 1000000000).toNat⟩

/-- The clock of the machine, and no way to the API. -/
def machine : Remote.Outside IO := ⟨present, fun _ => pure .unreachable⟩

/-- Reads lines up to an empty one or the end. -/
partial def readHead (input : IO.FS.Stream) : IO (List String) := do
  let line ← input.getLine
  let text := String.ofList (line.toList.filter fun character => character ∉ ['\r', '\n'])
  if text = "" then return [] else return text :: (← readHead input)

/-- Reads a number of bytes, or fewer at the end. -/
partial def readBody (input : IO.FS.Stream) (length : Nat) : IO (List UInt8) := do
  let bytes ← if length = 0 then pure .empty else input.read (USize.ofNat length)
  if bytes.isEmpty then return []
  return bytes.toList ++ (← readBody input (length - bytes.size))

/-- Serves requests up to the end or the first that cannot be read. -/
partial def serveAll (setup : Remote.Setup) (input output : IO.FS.Stream) :
    StateT Remote.State IO Unit := do
  match Http.Wire.head? (← readHead input) with
  | none => return
  | some request =>
    match Http.Wire.bodyLength? request with
    | none => return
    | some length =>
      let request := { request with body := ← readBody input length }
      let response ← (serve Asset.embeddedStore request).run (Remote.engine machine setup)
      output.write ⟨(Http.Wire.write response).toArray⟩
      output.flush
      serveAll setup input output

/-- Starts with some options. -/
def start (environment : Environment) (given : Given) : IO UInt32 := do
  let level := given.logLevel environment
  let prepared : Except Failure (Plan × Remote.Setup) := do
    let plan ← Plan.read environment given
    return (plan, ← plan.prepare ⟨Asset.embeddedStore, fun _ => true⟩)
  match prepared with
  | .error failure =>
    IO.eprintln (chainText failure.chain)
    return UInt32.ofNat failureCode
  | .ok (plan, setup) =>
    if level.shows .debug then
      IO.eprintln ("Engine configuration config=" ++ plan.settings.describe)
    if level.shows .info then IO.eprintln ("Starting server at " ++ plan.address.text)
    let state : Remote.State := { cache := (Cache.File.migrate {}).1 }
    let _ ← (serveAll setup (← IO.getStdin) (← IO.getStdout)).run state
    if level.shows .info then IO.eprintln (programName ++ " exiting.")
    return 0

end LinkGuard.Command

open Command in
/-- Runs the program. -/
def main (arguments : List String) : IO UInt32 := do
  let environment ← readEnvironment
  match readArguments {} arguments with
  | .error error =>
    IO.eprintln ("error: " ++ error.message)
    return UInt32.ofNat usageCode
  | .ok (.answer .help) =>
    IO.println helpText
    return 0
  | .ok (.answer question) =>
    IO.println question.answer
    return 0
  | .ok (.start given) => start environment given
