import LinkGuard.Duration
import LinkGuard.Text.Quoted
import LinkGuard.Threat

/-!
# Settings of the remote engine

The settings name the API, the key for it, the threats to ask about and how long answers are kept.
Their description leaves the key out, so that it may be logged.
-/

namespace LinkGuard.Remote

/-- What is wrong with settings. -/
inductive SettingsError where
  | missingKey
  | noThreats
  | invalidProxy
  deriving DecidableEq, Repr

/-- The text of the error. -/
def SettingsError.message : SettingsError → String
  | missingKey => "no API key specified"
  | noThreats => "no threat types specified"
  | invalidProxy => "invalid proxy URL: builder error"

/-- The settings of an engine. Answers that report threats and answers that report none are kept
for different times; no time at all for the latter means that they are not kept. -/
structure Settings where
  apiKey : String
  apiBase : String := "https://webrisk.googleapis.com"
  proxy : Option String := none
  cachePath : Option String := none
  threats : List Threat := Threat.concrete
  positiveTtl : Duration := .zero
  negativeTtl : Duration := .zero
  logsQueries : Bool := false
  requestTimeout : Duration := ⟨10 * 1000000000⟩
  deriving DecidableEq, Repr

/-- A written proxy; an empty text is none. -/
def Settings.withProxy (settings : Settings) (proxy : String) : Settings :=
  { settings with proxy := if proxy = "" then none else some proxy }

/-- Checks that an engine can start. -/
def Settings.check (settings : Settings) : Except SettingsError Unit :=
  if Text.trim settings.apiKey = "" then .error .missingKey
  else if settings.threats.isEmpty then .error .noThreats
  else .ok ()

/-- The name of a threat in descriptions. -/
def threatLabel : Threat → String
  | .unspecified => "Unspecified"
  | .malware => "Malware"
  | .socialEngineering => "SocialEngineering"
  | .unwantedSoftware => "UnwantedSoftware"
  | .socialEngineeringExtendedCoverage => "SocialEngineeringExtendedCoverage"

/-- A list of threats in descriptions. -/
def describeThreats (threats : List Threat) : String :=
  "[" ++ ", ".intercalate (threats.map threatLabel) ++ "]"

/-- An optional text in descriptions. -/
def describeOptional (text : Option String) : String :=
  match text with
  | some text => "Some(" ++ Text.quoted text ++ ")"
  | none => "None"

/-- A yes or no in descriptions. -/
def describeFlag (flag : Bool) : String := if flag then "true" else "false"

/-- A record in descriptions. -/
def describeRecord (title : String) (fields : List (String × String)) : String :=
  title ++ " \x7b " ++ ", ".intercalate (fields.map fun (name, value) => name ++ ": " ++ value) ++
    " \x7d"

/-- The description of settings. It is the same for all keys. -/
def Settings.describe (settings : Settings) : String :=
  describeRecord "EngineConfig" [
    ("api_key", Text.quoted "<redacted>"),
    ("api_base", Text.quoted settings.apiBase),
    ("proxy_url", describeOptional settings.proxy),
    ("db_path", describeOptional settings.cachePath),
    ("threat_types", describeThreats settings.threats),
    ("positive_min_ttl", settings.positiveTtl.text),
    ("negative_min_ttl", settings.negativeTtl.text),
    ("log_api_queries", describeFlag settings.logsQueries),
    ("request_timeout", settings.requestTimeout.text)]

end LinkGuard.Remote
