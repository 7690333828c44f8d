import LinkGuard.Endpoint.Query
import LinkGuard.Endpoint.Refusal
import LinkGuard.Http.Target
import LinkGuard.Lookup
import LinkGuard.Text.Percent

/-!
# The service

The server offers its status, lookups, redirects and the files of its warning pages. Paths are
compared as they were sent, without undoing any encoding; only the name of a file is decoded.
-/

namespace LinkGuard

open Http (Request Response Target)

/-- What a path leads to. -/
inductive Endpoint where
  | status
  | search
  | redirect
  | file (encoded : String)
  | unknown
  deriving DecidableEq, Repr

namespace Endpoint

/-- The path before the name of a file. -/
def filesPath : String := "/public/"

/-- The endpoint at a path. A file has a name. -/
def ofPath (path : String) : Endpoint :=
  match path with
  | "/status" => .status
  | "/v1/uris:search" => .search
  | "/r" => .redirect
  | _ =>
    let name := path.toList.drop filesPath.length
    if filesPath.toList.isPrefixOf path.toList ∧ name ≠ [] then .file (String.ofList name)
    else .unknown

/-- Reports the status of the engine. Trouble of the engine is part of the report. -/
def serveStatus : Inquiry Response :=
  .report fun (stats, error) => .done <|
    Response.withBody 200 "application/json" (Utf8.encode (Status.report stats error).toJson)

/-- The greatest length of the body of a lookup. -/
def bodyLimit : Nat := 2 * 1024 * 1024

/-- Looks up the link of a request and writes the answer. -/
def answerSearch (format : Format) (request : LookupRequest) : Inquiry Response := do
  match ← lookup request.uri with
  | .error error => pure (Refusal.engine error).response
  | .ok answer => pure (Response.withBody 200 format.mediaType (Message.write format answer))

/-- Serves a lookup. Everything about the request is checked before the engine is asked. -/
def serveSearch (request : Request) (query : Option String) : Inquiry Response :=
  if bodyLimit < request.body.length then
    pure (Response.plainText 413 "Failed to buffer the request body: length limit exceeded")
  else if request.method ≠ "POST" then pure (Refusal.badRequest "invalid method").response
  else
    let contentType := (request.header? "content-type").bind Http.visible?
    match Message.decode (Query.selector? query) contentType request.body with
    | .error error => pure (Refusal.ofReading error).response
    | .ok (format, message) => answerSearch format message

/-- The response that sends a visitor on. -/
def sendOn (target : String) : Response :=
  match Http.headerValue? target with
  | some location => ⟨302, [("location", location)], []⟩
  | none => (Refusal.badRequest "invalid url: bad characters").response

/-- The response that carries a decision out. -/
def carryOut (store : AssetStore) : Decision → Response
  | .safe target => sendOn target
  | .warned finding fragment target =>
    match Page.warning store finding.threat fragment target with
    | .ok page => Response.withBody 200 "text/html; charset=utf-8" (Utf8.encode page)
    | .error error => (Refusal.page error).response
  | .unclassified threats _ =>
    (Refusal.notFound ("no warning page for threat types: " ++
      ", ".intercalate (threats.map Threat.apiName))).response

/-- Serves a redirect. -/
def serveRedirect (store : AssetStore) (query : Option String) : Inquiry Response :=
  match Query.link? query with
  | none => pure Refusal.nothingHere.response
  | some link => do
    match ← Decision.make link with
    | .ok decision => pure (carryOut store decision)
    | .error error => pure (Refusal.ofDecision error).response

/-- Serves a file by its encoded name. -/
def serveFile (store : AssetStore) (method encoded : String) : Response :=
  if method ≠ "GET" ∧ method ≠ "HEAD" then
    ⟨405, [("allow", Utf8.encode "GET,HEAD")], []⟩
  else
    match Utf8.decode? (Percent.decode (Utf8.encode encoded)) with
    | none => Response.plainText 400 "Invalid URL: Invalid UTF-8 in \x60path\x60"
    | some path =>
      match store path with
      | .ok bytes => Response.withBody 200 (Asset.contentType path) bytes
      | .error error => (Refusal.notFound error.message).response

end Endpoint

/-- Serves a request. -/
def serve (store : AssetStore) (request : Request) : Inquiry Response := do
  let target := Target.read request.target
  let response ←
    match Endpoint.ofPath target.path with
    | .status => Endpoint.serveStatus
    | .search => Endpoint.serveSearch request target.query
    | .redirect => Endpoint.serveRedirect store target.query
    | .file encoded => pure (Endpoint.serveFile store request.method encoded)
    | .unknown => pure Refusal.nothingHere.response
  return response.finish request.method

end LinkGuard
