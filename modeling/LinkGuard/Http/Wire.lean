import LinkGuard.Http.Message
import LinkGuard.Text.Blank

/-!
# Requests and responses as bytes

A request arrives as a first line with its method and target, header lines, an empty line and the
body. A response is sent in the same form behind a line with its status.
-/

namespace LinkGuard.Http.Wire

/-- The request that a first line begins. -/
def beginRequest? (line : String) : Option Request :=
  match Text.split ' ' line with
  | [method, target, version] =>
    if version = "HTTP/1.1" ∨ version = "HTTP/1.0" then some { method, target } else none
  | _ => none

/-- Reads a header line. -/
def header? (line : String) : Option Header :=
  let characters := line.toList
  let name := characters.takeWhile (· ≠ ':')
  match characters.dropWhile (· ≠ ':') with
  | _ :: value =>
    if name = [] then none
    else some (String.ofList name, Utf8.encode (Text.trim (String.ofList value)))
  | [] => none

/-- Reads the lines of a request in front of its body. -/
def head? : List String → Option Request
  | [] => none
  | first :: rest => do
    let request ← beginRequest? first
    return { request with headers := ← rest.mapM header? }

/-- The length of the body that a request announces. -/
def bodyLength? (request : Request) : Option Nat :=
  match request.header? "content-length" with
  | none => some 0
  | some value => (visible? value).bind String.toNat?

/-- The usual words for a status. -/
def reason : Nat → String
  | 200 => "OK"
  | 302 => "Found"
  | 400 => "Bad Request"
  | 404 => "Not Found"
  | 405 => "Method Not Allowed"
  | 413 => "Payload Too Large"
  | _ => "Internal Server Error"

/-- The bytes of a line. -/
def line (bytes : List UInt8) : List UInt8 := bytes ++ [0x0D, 0x0A]

/-- The bytes of a response. -/
def write (response : Response) : List UInt8 :=
  line (Utf8.encode ("HTTP/1.1 " ++ toString response.status ++ " " ++ reason response.status)) ++
    response.headers.flatMap (fun (name, value) => line (Utf8.encode (name ++ ": ") ++ value)) ++
    line [] ++ response.body

end LinkGuard.Http.Wire
