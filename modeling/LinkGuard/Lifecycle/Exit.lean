/-!
# The exit event

A running server stops when it is sent the exit event, and there is one permit to send it. The
handle of the server holds the permit at first. The handle may use it, pass it on to a trigger that
will use it on completion, or give it up by waiting for the server. As the permit moves only once,
the event is sent at most once.
-/

namespace LinkGuard.Lifecycle

/-- Where the permit to send the exit event is. -/
inductive Permit where
  | withHandle
  | withTrigger (number : Nat)
  | used
  | lost
  deriving DecidableEq, Repr

/-- The permit, how many triggers were made, which of them have completed, and how often the event
was sent. Triggers are numbered from 0. -/
structure Exit where
  permit : Permit := .withHandle
  triggers : Nat := 0
  completed : List Nat := []
  sent : Nat := 0
  deriving DecidableEq, Repr

namespace Exit

/-- Uses the permit. -/
def send (exit : Exit) : Exit := { exit with permit := .used, sent := exit.sent + 1 }

/-- The handle asks for shutdown now. It does nothing without the permit. -/
def shutdown (exit : Exit) : Exit :=
  if exit.permit = .withHandle then exit.send else exit

/-- The handle asks for shutdown on completion of a new trigger. Only a trigger that gets the
permit has an effect. -/
def arm (exit : Exit) : Exit :=
  { exit with
    permit := if exit.permit = .withHandle then .withTrigger exit.triggers else exit.permit
    triggers := exit.triggers + 1 }

/-- A trigger exists and has not completed. -/
def isPending (number : Nat) (exit : Exit) : Bool :=
  number < exit.triggers && !exit.completed.contains number

/-- A trigger holds the permit. -/
def isAwaited (number : Nat) (exit : Exit) : Bool := exit.permit = .withTrigger number

/-- A trigger completes and uses the permit if it holds it. -/
def complete (number : Nat) (exit : Exit) : Exit :=
  let exit := if exit.isAwaited number then exit.send else exit
  { exit with completed := number :: exit.completed }

/-- The handle is given up for the result of the server. A permit still with it is lost. -/
def giveUp (exit : Exit) : Exit :=
  if exit.permit = .withHandle then { exit with permit := .lost } else exit

/-- The trigger that holds the permit is abandoned and the permit is lost. -/
def abandon (exit : Exit) : Exit :=
  match exit.permit with
  | .withTrigger _ => { exit with permit := .lost }
  | _ => exit

end Exit

end LinkGuard.Lifecycle
