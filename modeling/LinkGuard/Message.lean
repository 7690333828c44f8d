import LinkGuard.Threat.Json
import LinkGuard.Text.Blank
import LinkGuard.Wire.Field

/-!
# Lookup messages

A lookup asks about one link and is answered with the distinct threats attached to it. Both
messages have two encodings, JSON and a compact binary one. The format of an answer is negotiated:
a selector in the query wins over the declared content type. The body of a request, however, is
always read by its content type alone, and a body of any other type is left unread.

Threats in a request are accepted and not used for filtering.
-/

namespace LinkGuard

open Json

/-- A question about one link. -/
structure LookupRequest where
  uri : String := ""
  threats : List Threat := []
  deriving DecidableEq, Repr

/-- The distinct threats of one link. -/
structure LookupResponse where
  threats : List Threat := []
  deriving DecidableEq, Repr

/-- An encoding of messages. -/
inductive Format where
  | json
  | compact
  deriving DecidableEq, Repr

namespace Format

/-- The media type of a format. -/
def mediaType : Format → String
  | json => "application/json"
  | compact => "application/x-protobuf"

/-- The format of a content type; its parameters do not matter. -/
def ofContentType? (value : String) : Option Format :=
  let essence := String.ofList (Text.trimBlanks (value.toList.takeWhile (· ≠ ';')))
  if Text.sameLetters essence json.mediaType then some json
  else if Text.sameLetters essence compact.mediaType then some compact
  else none

/-- The format that a selector names: by a short name, or as a content type. -/
def ofSelector? (value : String) : Option Format :=
  let trimmed := Text.trim value
  if trimmed = "json" then some json
  else if trimmed = "proto" then some compact
  else ofContentType? trimmed

end Format

/-- Why a body cannot be read or an answer cannot be written. -/
inductive CodecError where
  | unsupportedFormat
  | json (error : Json.Error)
  | compact (error : Wire.Error)

/-- The text of the error. -/
def CodecError.message : CodecError → String
  | unsupportedFormat => "invalid interchange format"
  | json error => "malformed JSON body: " ++ error.message
  | compact error => "malformed protobuf body: " ++ error.message

/-- The format of an answer. A selector that is not empty wins over the content type. -/
def Format.negotiate (selector contentType : Option String) : Except CodecError Format :=
  let chosen :=
    match selector.filter (· ≠ "") with
    | some selector => selector
    | none => contentType.getD ""
  match Format.ofSelector? chosen with
  | some format => .ok format
  | none => .error .unsupportedFormat

/-- A message with both encodings; `empty` stands for a body that is left unread. -/
class Message (α : Type) where
  empty : α
  shape : Shape α
  toJson : α → String
  fields : List (Wire.Field α)
  toCompact : α → List UInt8

/-- The numbers as 32-bit integers: higher bits are dropped and the highest left is the sign. -/
def Wire.signed32 (number : Nat) : Int :=
  Int.bmod number (Nat.pow 2 32)

/-- The threats that numbers stand for. Numbers of newer versions are dropped, not refused. -/
def Threat.ofNumbers (numbers : List Nat) : List Threat :=
  numbers.filterMap fun number => Threat.ofNumber? (Wire.signed32 number)

/-- Threats as one chunk of a field; no field at all when there are none. -/
def Threat.listToCompact (tag : Nat) (threats : List Threat) : List UInt8 :=
  if threats.isEmpty then []
  else
    Wire.writeKey tag .chunk ++
      Wire.writeChunk (threats.flatMap fun threat => Wire.writeNumber threat.number)

namespace LookupRequest

/-- The members of a request; each may be left out. -/
def shape : Shape LookupRequest where
  title := "LookupRequest"
  members := [
    ⟨"uri", false, fun request => do pure { request with uri := ← Read.text }⟩,
    ⟨"threatTypes", false, fun request => do
      pure { request with threats := ← Read.list Threat.read }⟩]
  empty := {}

/-- A request as JSON. An empty list of threats is left out. -/
def toJson (request : LookupRequest) : String :=
  Json.record ([("uri", Json.text request.uri)] ++
    (if request.threats.isEmpty then []
      else [("threatTypes", Threat.listToJson request.threats)]))

/-- The fields of a request. A later link replaces an earlier one, threats add up. -/
def fields : List (Wire.Field LookupRequest) := [
  ⟨1, "SearchUrisRequest.uri", fun kind request bytes => do
    let (uri, rest) ← Wire.readText kind bytes
    .ok ({ request with uri }, rest)⟩,
  ⟨2, "SearchUrisRequest.threat_types", fun kind request bytes => do
    let (numbers, rest) ← Wire.readNumbers kind bytes
    .ok ({ request with threats := request.threats ++ Threat.ofNumbers numbers }, rest)⟩]

/-- A request in the compact format. An empty link is left out. -/
def toCompact (request : LookupRequest) : List UInt8 :=
  (if request.uri = "" then []
    else Wire.writeKey 1 .chunk ++ Wire.writeChunk (Utf8.encode request.uri)) ++
    Threat.listToCompact 2 request.threats

instance : Message LookupRequest := ⟨{}, shape, toJson, fields, toCompact⟩

end LookupRequest

namespace LookupResponse

/-- The members of a response; the list of threats may be left out. -/
def shape : Shape LookupResponse where
  title := "LookupResponse"
  members := [
    ⟨"threatTypes", false, fun response => do
      pure { response with threats := ← Read.list Threat.read }⟩]
  empty := {}

/-- A response as JSON. -/
def toJson (response : LookupResponse) : String :=
  Json.record [("threatTypes", Threat.listToJson response.threats)]

/-- The fields of a response. -/
def fields : List (Wire.Field LookupResponse) := [
  ⟨1, "SearchUrisResponse.threat_types", fun kind response bytes => do
    let (numbers, rest) ← Wire.readNumbers kind bytes
    .ok ({ response with threats := response.threats ++ Threat.ofNumbers numbers }, rest)⟩]

/-- A response in the compact format. -/
def toCompact (response : LookupResponse) : List UInt8 :=
  Threat.listToCompact 1 response.threats

instance : Message LookupResponse := ⟨{}, shape, toJson, fields, toCompact⟩

end LookupResponse

namespace Message

variable {α : Type} [Message α]

/-- Reads a body in a format. -/
def read (format : Format) (body : List UInt8) : Except CodecError α :=
  match format with
  | .json => (Json.Read.body (shape (α := α)).read body).mapError .json
  | .compact => (Wire.readMessage fields empty body).mapError .compact

/-- Writes a message in a format. -/
def write (format : Format) (message : α) : List UInt8 :=
  match format with
  | .json => Utf8.encode (toJson message)
  | .compact => toCompact message

/-- Reads a body and settles the format of the answer. -/
def decode (selector contentType : Option String) (body : List UInt8) :
    Except CodecError (Format × α) := do
  let format ← Format.negotiate selector contentType
  match contentType.bind Format.ofContentType? with
  | some declared => (read declared body).map fun message => (format, message)
  | none => .ok (format, empty)

end Message

end LinkGuard
