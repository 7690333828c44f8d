import LinkGuard.Text.Letters
import LinkGuard.Text.Utf8

/-!
# Requests and responses

Header values and bodies are bytes. A response is finished for the method of its request: the
length of the body is declared, a request for the head alone gets no body, and neither does a
request for a connection that is accepted.
-/

namespace LinkGuard.Http

/-- A header: a name and the bytes of its value. -/
abbrev Header := String × List UInt8

/-- A request. -/
structure Request where
  method : String := "GET"
  target : String
  headers : List Header := []
  body : List UInt8 := []
  deriving DecidableEq, Repr

/-- A response. -/
structure Response where
  status : Nat
  headers : List Header := []
  body : List UInt8 := []
  deriving DecidableEq, Repr

/-- A header value of visible ASCII characters and tabs, as text. -/
def visible? (value : List UInt8) : Option String :=
  if value.all fun byte => 0x20 ≤ byte ∧ byte < 0x7F ∨ byte = 0x09 then
    some (String.ofList (value.map fun byte => Char.ofNat byte.toNat))
  else none

/-- A byte that a header value may hold: no control character but the tab. -/
def isValueByte (byte : UInt8) : Bool := 0x20 ≤ byte ∧ byte ≠ 0x7F ∨ byte = 0x09

/-- The bytes of a text as a header value, if they may all stand in one. -/
def headerValue? (text : String) : Option (List UInt8) :=
  let bytes := Utf8.encode text
  if bytes.all isValueByte then some bytes else none

/-- The value of the first header with a name. -/
def Request.header? (request : Request) (name : String) : Option (List UInt8) :=
  (request.headers.find? fun header => Text.sameLetters header.1 name).map Prod.snd

namespace Response

/-- The first header, which says what the body is. -/
def typed (mediaType : String) : Header := ("content-type", Utf8.encode mediaType)

/-- A response with a body of a given type. -/
def withBody (status : Nat) (mediaType : String) (body : List UInt8) : Response :=
  ⟨status, [typed mediaType], body⟩

/-- A response of plain text. -/
def plainText (status : Nat) (text : String) : Response :=
  withBody status "text/plain; charset=utf-8" (Utf8.encode text)

/-- Declares the length of the body. -/
def withLength (response : Response) : Response :=
  { response with
    headers := response.headers ++
      [("content-length", Utf8.encode (toString response.body.length))] }

/-- The response as it is sent for a method. -/
def finish (method : String) (response : Response) : Response :=
  if method = "CONNECT" ∧ 200 ≤ response.status ∧ response.status < 300 then
    { response with body := [] }
  else if method = "HEAD" then { response.withLength with body := [] }
  else response.withLength

end Response

end LinkGuard.Http
