import LinkGuard.Command.Address
import LinkGuard.Command.Arguments
import LinkGuard.Lifecycle.Server
import LinkGuard.Page
import LinkGuard.Remote.Engine
import LinkGuard.Subscription

/-!
# The program

The program reads its arguments, checks them in a fixed order, makes an engine and a server from
them, and serves until a signal stops it. `Program.run` tells what a run leaves behind, given what
the surroundings allow: exit code, errors and log.

An error is reported as a chain of texts, from what could not be done to why.
-/

namespace LinkGuard.Command

open Remote (Settings Setup ClientError)

/-- The name of the program. -/
def programName : String := "wrserver"

/-- The version of the program. -/
def version : String := "0.3.0"

/-- The first line of the help. -/
def summary : String := programName ++ ": a local Web Risk lookup and redirect server"

/-- Why the program ends without having served. -/
inductive Failure where
  | noKey
  | duration (setting : Setting) (error : Duration.Invalid)
  | threats (error : UnknownThreat)
  | address (written : String) (error : AddressError)
  | client (error : ClientError)
  | asset (path : String) (error : AssetError)
  | bind (address : ListenAddress)

/-- The cause that an error of the client has beyond its own text. -/
def clientCause? : ClientError → Option String
  | .settings error => some error.message
  | .url error => some error.message
  | .cache error => some error.message
  | .http _ | .status .. => none

/-- The text of an option that could not be read. -/
def invalid (setting : Setting) : String := "Invalid --" ++ setting.name

/-- The texts of a failure. -/
def Failure.chain : Failure → List String
  | noKey => ["No --" ++ Setting.apiKey.name ++ " specified"]
  | duration setting error => [invalid setting, error.message]
  | threats error => [invalid .threats, error.message]
  | address written error => [invalid .address ++ " " ++ Text.quoted written, error.message]
  | client error =>
    ["Unable to initialize Web Risk client", error.message] ++ (clientCause? error).toList
  | asset path error => ["Unable to initialize static files: " ++ path, error.message]
  | bind place => ["Server error", "failed to bind to " ++ place.text]

/-- The settings of the engine. -/
def readSettings (environment : Environment) (given : Given) : Except Failure Settings := do
  let value := given.value environment
  let duration (setting : Setting) : Except Failure Duration :=
    (Duration.parse (value setting)).mapError (.duration setting)
  let apiKey := Text.trim (value .apiKey)
  if apiKey = "" then .error .noKey
  else
    let positiveTtl ← duration .positiveTtl
    let negativeTtl ← duration .negativeTtl
    let threats ← (Subscription.parse (value .threats)).mapError .threats
    let settings : Settings := {
      apiKey, threats, positiveTtl, negativeTtl
      cachePath := if value .cache = "" then none else some (value .cache)
      logsQueries := given.logsQueries environment }
    return settings.withProxy (Text.trim (value .proxy))

/-- The address to listen on. -/
def readAddress (environment : Environment) (given : Given) : Except Failure ListenAddress :=
  let written := ListenAddress.complete (Text.trim (given.value environment .address))
  (ListenAddress.read written).mapError (.address written)

/-- What the options say. -/
structure Plan where
  settings : Settings
  address : ListenAddress

/-- Reads the options. -/
def Plan.read (environment : Environment) (given : Given) : Except Failure Plan := do
  return ⟨← readSettings environment given, ← readAddress environment given⟩

/-- The pages and fragments that a warning may need. -/
def warningPaths : List String := Page.base :: Threat.all.filterMap Threat.fragment?

/-- Checks that every warning can be shown. -/
def checkAssets (store : AssetStore) : Except Failure Unit :=
  warningPaths.forM fun path => do
    let _ ← (store path).mapError (.asset path)

/-- What a program cannot decide by itself. -/
structure Surroundings where
  store : AssetStore
  canListen : ListenAddress → Bool

/-- Makes everything that serving needs. -/
def Plan.prepare (surroundings : Surroundings) (plan : Plan) : Except Failure Setup := do
  let setup ← (Setup.make plan.settings).mapError .client
  checkAssets surroundings.store
  if surroundings.canListen plan.address then return setup else .error (.bind plan.address)

/-- How much is logged. Each level includes those before it. -/
inductive LogLevel where
  | off
  | error
  | warning
  | info
  | debug
  | trace
  deriving DecidableEq, Repr

namespace LogLevel

/-- The place of a level, from the least to the most. -/
def rank : LogLevel → Nat
  | off => 0
  | error => 1
  | warning => 2
  | info => 3
  | debug => 4
  | trace => 5

/-- The level for a word: its name or its rank. For any other word only warnings are logged. -/
def ofText (text : String) : LogLevel :=
  match Text.lower text with
  | "off" | "0" => off
  | "" | "error" | "1" => error
  | "info" | "3" => info
  | "debug" | "4" => debug
  | "trace" | "5" => trace
  | _ => warning

/-- Whether a level includes another. -/
def shows (level shown : LogLevel) : Bool := shown.rank ≤ level.rank

end LogLevel

/-- The level that the options ask for. -/
def Given.logLevel (environment : Environment) (given : Given) : LogLevel :=
  if .debug ∈ given.switches then .debug else .ofText (given.value environment .logLevel)

/-- The signals that stop the program. -/
inductive Signal where
  | interrupt
  | terminate
  | quit
  deriving DecidableEq, Repr

/-- The name of a signal. -/
def Signal.name : Signal → String
  | interrupt => "SIGINT"
  | terminate => "SIGTERM"
  | quit => "SIGQUIT"

/-- What a run leaves behind. `settings` is the logged description of the settings, `notices` is the
log from the start of the server to the end, and `output` is the first line of standard output. -/
structure Report where
  exitCode : Nat
  errors : List String := []
  settings : Option String := none
  started : Bool := false
  notices : List String := []
  output : Option String := none
  deriving DecidableEq, Repr

/-- The exit code of a program that could not read its arguments. -/
def usageCode : Nat := 2

/-- The exit code of a program that failed otherwise. -/
def failureCode : Nat := 1

/-- The answer to a question. -/
def Question.answer : Question → String
  | help => summary
  | version => programName ++ " " ++ Command.version

/-- How a server without connections ends on a signal, from its start. -/
def stoppedBySignal : Lifecycle.Server :=
  (Lifecycle.Server.run {} [.arm, .handleWaits, .triggerCompletes 0]).getD {} |>.settle

/-- The log of a server that is stopped by a signal. -/
def stopNotices (signal : Signal) : List String :=
  ["signal " ++ signal.name, "Starting server shutdown..."] ++
    if stoppedBySignal.outcomes = [.stopped] then
      ["Server shutdown completed.", programName ++ " exiting."]
    else []

/-- Runs the program without any request to serve. -/
def run (surroundings : Surroundings) (environment : Environment) (signal : Signal)
    (arguments : List String) : Report :=
  match readArguments {} arguments with
  | .error _ => { exitCode := usageCode }
  | .ok (.answer question) => { exitCode := 0, output := some question.answer }
  | .ok (.start given) =>
    let level := given.logLevel environment
    match Plan.read environment given with
    | .error failure => { exitCode := failureCode, errors := failure.chain }
    | .ok plan =>
      let settings := if level.shows .debug then some plan.settings.describe else none
      match plan.prepare surroundings with
      | .error failure => { exitCode := failureCode, errors := failure.chain, settings }
      | .ok _ => {
          exitCode := 0
          settings
          started := level.shows .info
          notices := if level.shows .info then stopNotices signal else [] }

end LinkGuard.Command
