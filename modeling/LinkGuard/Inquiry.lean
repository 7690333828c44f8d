import LinkGuard.Status
import LinkGuard.Threat

/-!
# Inquiries

The protocol side of the server never holds an engine. It describes what it wants to know as an
inquiry: a value at once, or a question to the engine and what to make of the answer. Whatever an
inquiry asks is therefore visible in it, whichever engine answers in the end, and an inquiry that
is a value asks nothing.
-/

namespace LinkGuard

/-- What an engine answers: one list of findings per link asked for, or an error. -/
abbrev EngineAnswer := Except EngineError (List (List Finding))

/-- The counters of an engine and its last failure. -/
abbrev EngineReport := Stats × Option EngineError

/-- An engine whose answers may have effects. -/
structure Engine (m : Type → Type) where
  lookup : List String → m EngineAnswer
  report : m EngineReport

/-- A value, or a question to an engine and what follows from its answer. -/
inductive Inquiry (α : Type) where
  | done (value : α)
  | lookup (urls : List String) (next : EngineAnswer → Inquiry α)
  | report (next : EngineReport → Inquiry α)

namespace Inquiry

variable {α β : Type}

/-- Continues with the value of an inquiry. -/
def bind (inquiry : Inquiry α) (next : α → Inquiry β) : Inquiry β :=
  match inquiry with
  | .done value => next value
  | .lookup urls follow => .lookup urls fun answer => (follow answer).bind next
  | .report follow => .report fun answer => (follow answer).bind next

instance : Monad Inquiry where
  pure := .done
  bind := bind

/-- Has an engine answer the questions. -/
def run {m : Type → Type} [Monad m] (engine : Engine m) : Inquiry α → m α
  | .done value => pure value
  | .lookup urls next => do run engine (next (← engine.lookup urls))
  | .report next => do run engine (next (← engine.report))

end Inquiry

end LinkGuard
