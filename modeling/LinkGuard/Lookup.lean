import LinkGuard.Inquiry
import LinkGuard.Message

/-!
# Looking up one link

A lookup asks the engine about a single link and keeps each threat once, in the order of first
appearance. An engine that answers with any other number of lists has not understood the question,
so nothing of its answer is used.
-/

namespace LinkGuard

/-- The first of each kind, in order. -/
def distinct {α : Type} [DecidableEq α] : List α → List α
  | [] => []
  | first :: rest => first :: (distinct rest).filter (· ≠ first)

/-- The distinct threats of all findings, in order of first appearance. -/
def aggregate (answer : List (List Finding)) : LookupResponse :=
  ⟨distinct (answer.flatten.map Finding.threat)⟩

/-- The error of an engine that answers a question about one link with another number of lists. -/
def EngineError.wrongCount (count : Nat) : EngineError :=
  .malformed ("expected 1 result set, got " ++ toString count)

/-- The findings for the one link asked about. -/
def soleAnswer (answer : EngineAnswer) : Except EngineError (List Finding) := do
  match ← answer with
  | [findings] => .ok findings
  | lists => .error (.wrongCount lists.length)

/-- Looks up one link. -/
def lookup (uri : String) : Inquiry (Except EngineError LookupResponse) :=
  .lookup [uri] fun answer => .done ((soleAnswer answer).map fun findings => aggregate [findings])

end LinkGuard
