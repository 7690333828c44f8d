import LinkGuard.Http.Message
import LinkGuard.Message
import LinkGuard.Page
import LinkGuard.Redirect

/-!
# Refusals

A request that is not served ends with a refusal: one line of plain text under a status that tells
whether the request or the server is to blame.
-/

namespace LinkGuard

/-- Why a request is not served. -/
inductive Refusal where
  | badRequest (message : String)
  | notFound (message : String)
  | engine (error : EngineError)
  | page (error : PageError)
  | encoding (message : String)
  deriving DecidableEq, Repr

namespace Refusal

/-- The text of the refusal. -/
def message : Refusal → String
  | badRequest message | notFound message | encoding message => message
  | engine error => error.message
  | page error => error.message

/-- The status of the refusal. -/
def status : Refusal → Nat
  | badRequest _ => 400
  | notFound _ => 404
  | engine _ | page _ | encoding _ => 500

/-- The response of the refusal. -/
def response (refusal : Refusal) : Http.Response :=
  .plainText refusal.status (refusal.message ++ "\n")

/-- The refusal of a body that cannot be read. -/
def ofReading (error : CodecError) : Refusal := .badRequest error.message

/-- The refusal that stands for an answer that cannot be written. -/
def ofWriting (error : CodecError) : Refusal := .encoding error.message

/-- The refusal of a link without a decision. -/
def ofDecision (error : DecisionError) : Refusal :=
  match error with
  | .invalidUrl _ => .badRequest error.message
  | .engine error => .engine error

/-- The refusal of a path that leads nowhere. -/
def nothingHere : Refusal := .notFound "404 page not found"

end Refusal

end LinkGuard
