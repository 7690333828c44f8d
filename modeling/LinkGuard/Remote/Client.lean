import LinkGuard.Cache.File
import LinkGuard.Remote.Settings
import LinkGuard.Text.Form
import LinkGuard.Url.Parser

/-!
# The API client

A client asks the API about one link at a time: it builds the address to fetch and makes sense of
what comes back. Fetching itself is left to whoever has a network.
-/

namespace LinkGuard.Remote

/-- Why the API has not answered or cannot be asked. -/
inductive ClientError where
  | settings (error : SettingsError)
  | http (problem : String)
  | status (code : Nat) (message : String)
  | url (error : UrlError)
  | cache (error : Cache.Error)

/-- The text of the error. -/
def ClientError.message : ClientError → String
  | settings error => "Config error: " ++ error.message
  | http problem => "HTTP error: " ++ problem
  | status code message => "API error: status " ++ toString code ++ ": " ++ message
  | url error => "URL error: " ++ error.message
  | cache error => "Storage error: " ++ error.message

/-- What the API reports for a link: names of threats, and until when that holds. -/
structure Report where
  names : List String := []
  expiry : Option Instant := none
  deriving DecidableEq, Repr

/-- The members of a report. -/
def Report.shape : Json.Shape Report where
  title := "ThreatUri"
  members := [
    ⟨"threatTypes", false, fun report => do
      pure { report with names := ← Json.Read.list Json.Read.text }⟩,
    ⟨"expireTime", false, fun report => do
      pure { report with expiry := ← Json.Read.optional Instant.read }⟩]
  empty := {}

/-- The members of a body: a report, or none when nothing is known against the link. -/
def bodyShape : Json.Shape (Option Report) where
  title := "SearchUrisResponse"
  members := [⟨"threat", false, fun _ => Json.Read.optional Report.shape.read⟩]
  empty := none

/-- The known threats of a link in the order of the report. -/
structure Answer where
  threats : List Threat := []
  expiry : Option Instant := none
  deriving DecidableEq, Repr

/-- The answer that a report gives. Names in any letter case count; unknown ones are dropped. -/
def Answer.ofReport : Option Report → Answer
  | some report => ⟨report.names.filterMap Threat.ofName?, report.expiry⟩
  | none => {}

/-- Reads a body. -/
def Answer.read? (body : List UInt8) : Option Answer :=
  match Json.Read.body bodyShape.read body with
  | .ok report => some (.ofReport report)
  | .error _ => none

/-- A client. -/
structure Client where
  searchUrl : Url
  apiKey : String
  threats : List Threat
  logsQueries : Bool
  deriving DecidableEq, Repr

/-- Whether a text can name a proxy: a link with a host, or one that lacks only its scheme. -/
def namesProxy (text : String) : Bool :=
  let withScheme := (Url.parse ("http://" ++ text)).isOk
  match Url.parse text with
  | .ok url => url.host.isSome || withScheme
  | .error .relativeWithoutBase => withScheme
  | .error _ => false

/-- The path of the search endpoint. -/
def searchPath : String := "/v1/uris:search"

/-- The text without the slashes at its end. -/
def dropSlashesEnd (text : String) : String :=
  String.ofList (text.toList.reverse.dropWhile (· = '/')).reverse

namespace Client

/-- The client for some settings. -/
def make (settings : Settings) : Except ClientError Client := do
  if settings.proxy.any (!namesProxy ·) then .error (.settings .invalidProxy)
  else
    let base ← (Url.parse (dropSlashesEnd settings.apiBase)).mapError .url
    let searchUrl ← (base.atPath searchPath).mapError .url
    return ⟨searchUrl, settings.apiKey, settings.threats, settings.logsQueries⟩

/-- The parameters of a request. -/
def parameters (client : Client) (uri : String) : List (String × String) :=
  [("key", client.apiKey), ("uri", uri)] ++
    client.threats.map fun threat => ("threatTypes", threat.apiName)

/-- The address of a request. -/
def requestUrl (client : Client) (uri : String) : Url :=
  { client.searchUrl with query := some (Form.write (client.parameters uri)) }

/-- The description of a client. -/
def describe (client : Client) : String :=
  describeRecord "ApiClient" [
    ("search_url", Text.quoted client.searchUrl.href),
    ("threat_types", describeThreats client.threats),
    ("log_queries", describeFlag client.logsQueries)]

end Client

/-- What fetching an address gives: nothing, or a status with the body if it arrived whole. -/
inductive Reply where
  | unreachable
  | response (status : Nat) (body : Option (List UInt8))
  deriving DecidableEq, Repr

/-- How much of the body of a failure is kept. -/
def keptLength : Nat := 256

/-- The text of the body of a failure, cut short and trimmed. A mark of the encoding in front of it
is no part of it. -/
def failureText (body : Option (List UInt8)) : String :=
  let characters := (Utf8.decodeLossy (body.getD [])).toList
  let unmarked := if characters.head? = some '\ufeff' then characters.drop 1 else characters
  String.ofList (Text.trimBlanks (unmarked.take keptLength))

/-- A link as it is shown when fetching it has failed: without user name and password. -/
def shownUrl (url : Url) : String :=
  " for url (" ++ { url with username := "", password := none }.href ++ ")"

/-- The schemes that can be fetched. -/
def fetchedSchemes : List String := ["http", "https"]

/-- What the reply to a request means. -/
def Client.interpret (client : Client) (uri : String) (reply : Reply) :
    Except ClientError Answer :=
  let url := client.requestUrl uri
  if url.scheme ∉ fetchedSchemes then .error (.http ("builder error" ++ shownUrl url))
  else
    match reply with
    | .unreachable => .error (.http ("error sending request" ++ shownUrl url))
    | .response status body =>
      if 200 ≤ status ∧ status < 300 then
        match body.bind Answer.read? with
        | some answer => .ok answer
        | none => .error (.http ("error decoding response body" ++ shownUrl url))
      else .error (.status status (failureText body))

end LinkGuard.Remote
