import LinkGuard.Duration
import LinkGuard.Lifecycle.Exit

/-!
# The life of a server

A server accepts connections until it receives the exit event. It then lets the connections finish,
and closes those that have not finished at the deadline. The events of the handle, the triggers,
the connections, the clock and the server itself may come in any order; `Server.step` says which of
them are possible in a state and what they do.

The server receives only an event that was sent. When the permit is lost it just stops listening for
the event.
-/

namespace LinkGuard.Lifecycle

/-- What has become of a connection. A collected connection has finished and been noticed. -/
inductive Fate where
  | running
  | finished
  | collected
  | aborted
  deriving DecidableEq, Repr

/-- What a server is doing. It pauses after a failure to accept that is not the fault of one
connection. While it drains it waits for its connections, then it gathers those that finished in
time, or closes those that did not. -/
inductive Phase where
  | accepting
  | pausing
  | draining
  | gathering
  | closing
  | ended
  deriving DecidableEq, Repr

/-- How a server ended. -/
inductive Outcome where
  | stopped
  | timedOut
  deriving DecidableEq, Repr

/-- How long connections get to finish, unless a server is told otherwise. -/
def drainTime : Duration := .ofSeconds 5

/-- The text of the error that an outcome is, if it is one. -/
def Outcome.problem? (timeout : Duration) : Outcome → Option String
  | stopped => none
  | timedOut => some ("server shutdown timed out after " ++ timeout.text)

/-- A server. `overdue` is the number of connections that were running when the deadline passed,
and nothing before that. `outcomes` are the outcomes delivered to the handle. -/
structure Server where
  exit : Exit := {}
  phase : Phase := .accepting
  listensForExit : Bool := true
  connections : List Fate := []
  overdue : Option Nat := none
  outcomes : List Outcome := []
  deriving DecidableEq, Repr

/-- What may happen. Connections are numbered from 0 in the order of their acceptance. -/
inductive Event where
  | shutdown
  | arm
  | triggerCompletes (number : Nat)
  | triggerAbandoned
  | handleWaits
  | accepts
  | acceptFails (faultOfConnection : Bool)
  | resumes
  | finishes (connection : Nat)
  | collects (connection : Nat)
  | receivesExit
  | noticesLoss
  | deadlinePasses
  | drains
  | givesUp
  | aborts (connection : Nat)
  | delivers
  deriving DecidableEq, Repr

namespace Server

/-- How many connections are running. -/
def unfinished (server : Server) : Nat := server.connections.count .running

/-- Changes the fate of a connection from one to another. -/
def turn (connection : Nat) (before after : Fate) (server : Server) : Option Server :=
  if server.connections[connection]? = some before then
    some { server with connections := server.connections.set connection after }
  else none

/-- Goes on to another phase. -/
def enter (phase : Phase) (server : Server) : Server := { server with phase }

/-- The server after an event, if the event is possible. -/
def step (server : Server) : Event → Option Server
  | .shutdown => some { server with exit := server.exit.shutdown }
  | .arm => some { server with exit := server.exit.arm }
  | .triggerCompletes number =>
    if server.exit.isPending number then some { server with exit := server.exit.complete number }
    else none
  | .triggerAbandoned => some { server with exit := server.exit.abandon }
  | .handleWaits => some { server with exit := server.exit.giveUp }
  | .accepts =>
    if server.phase = .accepting then
      some { server with connections := server.connections ++ [.running] }
    else none
  | .acceptFails faultOfConnection =>
    if server.phase = .accepting then
      some (if faultOfConnection then server else server.enter .pausing)
    else none
  | .resumes => if server.phase = .pausing then some (server.enter .accepting) else none
  | .finishes connection => server.turn connection .running .finished
  | .collects connection =>
    if server.phase = .accepting ∨ server.phase = .gathering ∨ server.phase = .closing then
      server.turn connection .finished .collected
    else none
  | .receivesExit =>
    if server.phase = .accepting ∧ server.listensForExit ∧ server.exit.permit = .used then
      some (server.enter .draining)
    else none
  | .noticesLoss =>
    if server.phase = .accepting ∧ server.listensForExit ∧ server.exit.permit = .lost then
      some { server with listensForExit := false }
    else none
  | .deadlinePasses =>
    if server.phase = .draining ∧ server.overdue = none then
      some { server with overdue := some server.unfinished }
    else none
  | .drains =>
    if server.phase = .draining ∧ server.unfinished = 0 then some (server.enter .gathering)
    else none
  | .givesUp =>
    if server.phase = .draining ∧ server.overdue.isSome ∧ server.unfinished ≠ 0 then
      some (server.enter .closing)
    else none
  | .aborts connection =>
    if server.phase = .closing then server.turn connection .running .aborted else none
  | .delivers =>
    match server.phase with
    | .gathering =>
      if server.connections.all (· = .collected) then
        some { server with phase := .ended, outcomes := server.outcomes ++ [.stopped] }
      else none
    | .closing =>
      if server.unfinished = 0 then
        some { server with phase := .ended, outcomes := server.outcomes ++ [.timedOut] }
      else none
    | _ => none

/-- The server after some events, if they are possible in that order. -/
def run (server : Server) (events : List Event) : Option Server := events.foldlM step server

/-- What a server does next without anything from outside, if there is such a thing. -/
def next? (server : Server) : Option Event :=
  let first (fate : Fate) := server.connections.findIdx? (· = fate)
  match server.phase with
  | .accepting =>
    match (first .finished).map Event.collects with
    | some event => some event
    | none =>
      if !server.listensForExit then none
      else
        match server.exit.permit with
        | .used => some .receivesExit
        | .lost => some .noticesLoss
        | _ => none
  | .pausing => some .resumes
  | .draining =>
    if server.unfinished = 0 then some .drains
    else if server.overdue.isSome then some .givesUp
    else none
  | .gathering => some (((first .finished).map Event.collects).getD .delivers)
  | .closing => some (((first .running).map Event.aborts).getD .delivers)
  | .ended => none

/-- Lets a server act on its own for a number of steps, or until it has nothing to do. -/
def act : Nat → Server → Server
  | 0, server => server
  | steps + 1, server =>
    match server.next?.bind server.step with
    | some server => act steps server
    | none => server

/-- Lets a server act on its own until it has nothing to do. It goes through its phases once and
deals with a connection at most twice. -/
def settle (server : Server) : Server := act (2 * server.connections.length + 5) server

end Server

end LinkGuard.Lifecycle
