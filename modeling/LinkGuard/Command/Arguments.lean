/-!
# Arguments of the program

The arguments are options with a value, switches, and the questions for help and for the version. A
value follows its option as the next argument or behind an equals sign. Nothing may be given twice,
and nothing else may be given. The arguments are read from left to right, and the first fault or
question decides.

A value that is not given is taken from the environment, for options that have a variable there, or
else is the default.
-/

namespace LinkGuard.Command

/-- The options with a value. -/
inductive Setting where
  | apiKey
  | address
  | proxy
  | cache
  | threats
  | positiveTtl
  | negativeTtl
  | logLevel
  | logFolder
  deriving DecidableEq, Repr

/-- The options without a value. -/
inductive Switch where
  | logsQueries
  | debug
  deriving DecidableEq, Repr

/-- What is asked of the program instead of a start. -/
inductive Question where
  | help
  | version
  deriving DecidableEq, Repr

/-- Something that an argument names. -/
inductive Flag where
  | setting (setting : Setting)
  | switch (switch : Switch)
  | question (question : Question)
  deriving DecidableEq, Repr

/-- What is wrong with the arguments. -/
inductive UsageError where
  | unexpected (argument : String)
  | noValue (name : String)
  | needlessValue (name : String)
  | repeated (name : String)
  | emptyValue (name : String)
  deriving DecidableEq, Repr

/-- The text of the error. -/
def UsageError.message : UsageError → String
  | unexpected argument => "unexpected argument: " ++ argument
  | noValue name => "a value is required for --" ++ name
  | needlessValue name => "no value is allowed for --" ++ name
  | repeated name => "--" ++ name ++ " cannot be used more than once"
  | emptyValue name => "the value for --" ++ name ++ " must not be empty"

namespace Setting

/-- The name of an option. -/
def name : Setting → String
  | apiKey => "apikey"
  | address => "srvaddr"
  | proxy => "proxy"
  | cache => "db"
  | threats => "threatTypes"
  | positiveTtl => "pminTTL"
  | negativeTtl => "nminTTL"
  | logLevel => "log-level"
  | logFolder => "log-dir"

/-- The variable that gives a value in place of the option. -/
def environmentName? : Setting → Option String
  | apiKey => some "APIKEY"
  | positiveTtl => some "PMINTTL"
  | negativeTtl => some "NMINTTL"
  | _ => none

/-- The value of an option that is given nowhere. -/
def default : Setting → String
  | address => "0.0.0.0:8080"
  | threats => "ALL"
  | logLevel => "info"
  | _ => ""

/-- A value that begins with a hyphen may follow as an argument of its own. Durations may be
negative in what people write, and are refused as durations. -/
def takesHyphens : Setting → Bool
  | positiveTtl | negativeTtl => true
  | _ => false

/-- All options with a value. -/
def all : List Setting :=
  [apiKey, address, proxy, cache, threats, positiveTtl, negativeTtl, logLevel, logFolder]

end Setting

/-- The name of a switch. -/
def Switch.name : Switch → String
  | logsQueries => "logAPIQueries"
  | debug => "debug"

/-- The name of a question. -/
def Question.name : Question → String
  | help => "help"
  | version => "version"

namespace Flag

/-- The name of what an argument names. -/
def name : Flag → String
  | setting option => option.name
  | switch option => option.name
  | question asked => asked.name

/-- All names. -/
def all : List Flag :=
  Setting.all.map .setting ++ [.switch .logsQueries, .switch .debug] ++
    [.question .help, .question .version]

/-- What a name stands for. -/
def ofName? (name : String) : Option Flag := all.find? fun flag => flag.name = name

end Flag

/-- An argument on its own: the end of the options, a name with the value attached to it, a
question by its letter, or none of these. -/
inductive Argument where
  | optionsEnd
  | named (flag : Flag) (value : Option String)
  | other
  deriving DecidableEq, Repr

/-- What an argument is on its own. Behind the letter of a question nothing counts. -/
def Argument.ofText (text : String) : Argument :=
  match text.toList with
  | ['-', '-'] => .optionsEnd
  | '-' :: '-' :: characters =>
    let value :=
      match characters.dropWhile (· ≠ '=') with
      | _ :: value => some (String.ofList value)
      | [] => none
    match Flag.ofName? (String.ofList (characters.takeWhile (· ≠ '='))) with
    | some flag => .named flag value
    | none => .other
  | '-' :: 'h' :: _ => .named (.question .help) none
  | '-' :: 'V' :: _ => .named (.question .version) none
  | _ => .other

/-- The options given so far. -/
structure Given where
  values : List (Setting × String) := []
  switches : List Switch := []
  deriving DecidableEq, Repr

namespace Given

/-- Adds a value. The folder for logs is no empty text. -/
def addValue (setting : Setting) (value : String) (given : Given) : Except UsageError Given :=
  if (given.values.lookup setting).isSome then .error (.repeated setting.name)
  else if setting = .logFolder ∧ value = "" then .error (.emptyValue setting.name)
  else .ok { given with values := given.values ++ [(setting, value)] }

/-- Adds a switch. -/
def addSwitch (switch : Switch) (given : Given) : Except UsageError Given :=
  if switch ∈ given.switches then .error (.repeated switch.name)
  else .ok { given with switches := given.switches ++ [switch] }

end Given

/-- An argument may be the value of the option in front of it. -/
def mayFollow (setting : Setting) (argument : String) : Bool :=
  setting.takesHyphens || argument = "-" || argument.toList.head? != some '-'

/-- What the arguments ask for: a start with some options, or an answer. -/
inductive Wish where
  | start (given : Given)
  | answer (question : Question)
  deriving DecidableEq, Repr

/-- Reads arguments behind those already read. -/
def readArguments (given : Given) : List String → Except UsageError Wish
  | [] => .ok (.start given)
  | argument :: rest =>
    match Argument.ofText argument with
    | .other => .error (.unexpected argument)
    | .optionsEnd =>
      match rest with
      | [] => .ok (.start given)
      | argument :: _ => .error (.unexpected argument)
    | .named (.question question) none => .ok (.answer question)
    | .named (.switch switch) none => do readArguments (← given.addSwitch switch) rest
    | .named (.setting setting) (some value) => do
      readArguments (← given.addValue setting value) rest
    | .named (.setting setting) none =>
      match rest with
      | [] => .error (.noValue setting.name)
      | value :: rest =>
        if mayFollow setting value then do readArguments (← given.addValue setting value) rest
        else .error (.noValue setting.name)
    | .named flag (some _) => .error (.needlessValue flag.name)

/-- The variables of the environment. -/
abbrev Environment := List (String × String)

/-- The variable that switches on the log of queries by the word `yes`. -/
def queriesVariable : String := "LOGAPIQUERIES"

namespace Given

/-- The value of an option. -/
def value (environment : Environment) (given : Given) (setting : Setting) : String :=
  let fromEnvironment := setting.environmentName?.bind (environment.lookup ·)
  ((given.values.lookup setting).or fromEnvironment).getD setting.default

/-- Whether queries are logged. -/
def logsQueries (environment : Environment) (given : Given) : Bool :=
  .logsQueries ∈ given.switches || environment.lookup queriesVariable = some "yes"

end Given

end LinkGuard.Command
