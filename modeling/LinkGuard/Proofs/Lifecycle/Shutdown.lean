import LinkGuard.Lifecycle.Server
import Mathlib.Data.List.Induction

/-!
# Orderly shutdown

The events of a server come in any order, but it stops in one way only. It accepts connections
until it has received the exit event, which the handle or a trigger must have sent; a permit that
is lost keeps it going for ever. From then on no connection is added, so those that are running
when it gives up were already running when the deadline passed. It closes connections only then,
and it delivers one outcome when none is running any more.

The invariant says what is true of a server in each phase. Every event is possible in a few phases
only, so it is kept event by event.
-/

namespace LinkGuard.Lifecycle

/-- The handle or a trigger has the permit. -/
def Permit.isHeld : Permit → Bool
  | withHandle | withTrigger _ => true
  | used | lost => false

theorem Permit.ne_used_of_isHeld {permit : Permit} (held : permit.isHeld = true) :
    permit ≠ .used := by
  rintro rfl
  cases held

namespace Exit

/-- The event was sent once if the permit was used, and not at all otherwise. -/
def IsCounted (exit : Exit) : Prop :=
  exit.sent = if exit.permit = .used then 1 else 0

/-- What the handle and the triggers may do to the exit. Only who holds the permit sends the event
or passes the permit on. -/
inductive Act (exit : Exit) : Exit → Prop
  | sends (triggers : Nat) (completed : List Nat) (held : exit.permit.isHeld = true) :
      Act exit ⟨.used, triggers, completed, exit.sent + 1⟩
  | passes {permit : Permit} (triggers : Nat) (completed : List Nat)
      (held : exit.permit.isHeld = true) (unsent : permit ≠ .used) :
      Act exit ⟨permit, triggers, completed, exit.sent⟩
  | records (triggers : Nat) (completed : List Nat) :
      Act exit ⟨exit.permit, triggers, completed, exit.sent⟩

variable {exit after : Exit}

theorem act_shutdown (exit : Exit) : Act exit exit.shutdown := by
  rw [shutdown]
  split
  case isTrue holds => exact .sends _ _ (by rw [holds, Permit.isHeld])
  case isFalse => exact .records _ _

theorem act_arm (exit : Exit) : Act exit exit.arm := by
  rw [arm]
  split
  case isTrue holds => exact .passes _ _ (by rw [holds, Permit.isHeld]) nofun
  case isFalse => exact .records _ _

theorem act_complete (number : Nat) (exit : Exit) : Act exit (exit.complete number) := by
  simp only [complete, isAwaited, decide_eq_true_eq]
  split
  case isTrue holds => exact .sends _ _ (by rw [holds, Permit.isHeld])
  case isFalse => exact .records _ _

theorem act_giveUp (exit : Exit) : Act exit exit.giveUp := by
  rw [giveUp]
  split
  case isTrue holds => exact .passes _ _ (by rw [holds, Permit.isHeld]) nofun
  case isFalse => exact .records _ _

theorem act_abandon (exit : Exit) : Act exit exit.abandon := by
  rw [abandon]
  split
  case h_1 number holds => exact .passes _ _ (by rw [holds, Permit.isHeld]) nofun
  case h_2 => exact .records _ _

/-- A permit that nobody holds stays where it is, and the event is not sent. -/
theorem Act.stays (act : Act exit after) (unheld : exit.permit.isHeld = false) :
    after.permit = exit.permit ∧ after.sent = exit.sent := by
  cases act with
  | sends triggers completed held | passes triggers completed held unsent =>
      rw [unheld] at held
      cases held
  | records triggers completed => exact ⟨rfl, rfl⟩

theorem Act.isCounted (act : Act exit after) (counted : exit.IsCounted) : after.IsCounted := by
  cases act with
  | sends triggers completed held =>
      rw [IsCounted, if_neg (Permit.ne_used_of_isHeld held)] at counted
      simp [IsCounted, counted]
  | passes triggers completed held unsent =>
      rw [IsCounted, if_neg (Permit.ne_used_of_isHeld held)] at counted
      simp [IsCounted, counted, unsent]
  | records triggers completed => exact counted

end Exit

/-- The event belongs to the handle or to a trigger. -/
def Event.concernsExit : Event → Bool
  | .shutdown | .arm | .triggerCompletes _ | .triggerAbandoned | .handleWaits => true
  | _ => false

namespace Server

section Runs

variable {server next : Server} {event : Event} {events later : List Event}

theorem run_cons (server : Server) (event : Event) (events : List Event) :
    server.run (event :: events) = (server.step event).bind (·.run events) :=
  rfl

theorem run_append (server : Server) (events later : List Event) :
    server.run (events ++ later) = (server.run events).bind (·.run later) :=
  List.foldlM_append

theorem run_concat (server : Server) (events : List Event) (event : Event) :
    server.run (events ++ [event]) = (server.run events).bind (·.step event) := by
  rw [run_append]
  congr 1
  funext reached
  rw [run_cons]
  exact Option.bind_fun_some _

/-- What holds at the beginning and is kept by every step holds throughout. -/
theorem run_keeps (holds : Server → Prop) (start : holds server)
    (kept : ∀ server event next, holds server → server.step event = some next → holds next)
    (run : server.run events = some next) : holds next := by
  induction events generalizing server with
  | nil =>
      cases run
      exact start
  | cons event events ih =>
      rcases Option.bind_eq_some_iff.mp run with ⟨between, step, rest⟩
      exact ih (kept server event between start step) rest

end Runs

/-- The server does not accept connections any more. -/
def HasLeft (server : Server) : Prop := server.phase ≠ .accepting ∧ server.phase ≠ .pausing

/-- Some connection was running when the deadline passed. -/
def IsLate (server : Server) : Prop := ∃ count, server.overdue = some (count + 1)

/-- What an event does to a server, and when. -/
inductive Change (server : Server) : Event → Server → Prop
  | acts {event : Event} {exit : Exit} (concerns : event.concernsExit = true)
      (act : server.exit.Act exit) : Change server event { server with exit }
  | accepts (here : server.phase = .accepting) :
      Change server .accepts { server with connections := server.connections ++ [.running] }
  | fails (here : server.phase = .accepting) : Change server (.acceptFails true) server
  | pauses (here : server.phase = .accepting) :
      Change server (.acceptFails false) (server.enter .pausing)
  | resumes (here : server.phase = .pausing) : Change server .resumes (server.enter .accepting)
  | finishes {connection : Nat} (there : server.connections[connection]? = some .running) :
      Change server (.finishes connection)
        { server with connections := server.connections.set connection .finished }
  | collects {connection : Nat} (there : server.connections[connection]? = some .finished)
      (here : server.phase = .accepting ∨ server.phase = .gathering ∨ server.phase = .closing) :
      Change server (.collects connection)
        { server with connections := server.connections.set connection .collected }
  | aborts {connection : Nat} (there : server.connections[connection]? = some .running)
      (here : server.phase = .closing) :
      Change server (.aborts connection)
        { server with connections := server.connections.set connection .aborted }
  | leaves (here : server.phase = .accepting) (listens : server.listensForExit = true)
      (used : server.exit.permit = .used) :
      Change server .receivesExit (server.enter .draining)
  | noticesLoss (here : server.phase = .accepting) (listens : server.listensForExit = true)
      (lost : server.exit.permit = .lost) :
      Change server .noticesLoss { server with listensForExit := false }
  | meetsDeadline (here : server.phase = .draining) (undue : server.overdue = none) :
      Change server .deadlinePasses { server with overdue := some server.unfinished }
  | drains (here : server.phase = .draining) (drained : server.unfinished = 0) :
      Change server .drains (server.enter .gathering)
  | givesUp (here : server.phase = .draining) (passed : server.overdue.isSome)
      (unfinished : server.unfinished ≠ 0) : Change server .givesUp (server.enter .closing)
  | stops (here : server.phase = .gathering)
      (collected : ∀ fate ∈ server.connections, fate = .collected) :
      Change server .delivers
        { server with phase := .ended, outcomes := server.outcomes ++ [.stopped] }
  | timesOut (here : server.phase = .closing) (drained : server.unfinished = 0) :
      Change server .delivers
        { server with phase := .ended, outcomes := server.outcomes ++ [.timedOut] }

section Steps

variable {server next : Server} {event : Event} {connection : Nat} {before after fate : Fate}

theorem turn_eq_some (turned : server.turn connection before after = some next) :
    server.connections[connection]? = some before ∧
      next = { server with connections := server.connections.set connection after } := by
  rw [turn] at turned
  split at turned
  case isTrue there => exact ⟨there, (Option.some.inj turned).symm⟩
  case isFalse => cases turned

theorem change_of_step (step : server.step event = some next) : server.Change event next := by
  cases event with
  | shutdown =>
      cases step
      exact .acts rfl (Exit.act_shutdown _)
  | arm =>
      cases step
      exact .acts rfl (Exit.act_arm _)
  | triggerCompletes number =>
      rcases Option.ite_none_right_eq_some.mp step with ⟨_, ⟨⟩⟩
      exact .acts rfl (Exit.act_complete number _)
  | triggerAbandoned =>
      cases step
      exact .acts rfl (Exit.act_abandon _)
  | handleWaits =>
      cases step
      exact .acts rfl (Exit.act_giveUp _)
  | accepts =>
      rcases Option.ite_none_right_eq_some.mp step with ⟨here, ⟨⟩⟩
      exact .accepts here
  | acceptFails faultOfConnection =>
      rcases Option.ite_none_right_eq_some.mp step with ⟨here, failed⟩
      cases faultOfConnection with
      | true =>
          cases failed
          exact .fails here
      | false =>
          cases failed
          exact .pauses here
  | resumes =>
      rcases Option.ite_none_right_eq_some.mp step with ⟨here, ⟨⟩⟩
      exact .resumes here
  | finishes connection =>
      rcases turn_eq_some step with ⟨there, rfl⟩
      exact .finishes there
  | collects connection =>
      rcases Option.ite_none_right_eq_some.mp step with ⟨here, turned⟩
      rcases turn_eq_some turned with ⟨there, rfl⟩
      exact .collects there here
  | receivesExit =>
      rcases Option.ite_none_right_eq_some.mp step with ⟨⟨here, listens, used⟩, ⟨⟩⟩
      exact .leaves here listens used
  | noticesLoss =>
      rcases Option.ite_none_right_eq_some.mp step with ⟨⟨here, listens, lost⟩, ⟨⟩⟩
      exact .noticesLoss here listens lost
  | deadlinePasses =>
      rcases Option.ite_none_right_eq_some.mp step with ⟨⟨here, undue⟩, ⟨⟩⟩
      exact .meetsDeadline here undue
  | drains =>
      rcases Option.ite_none_right_eq_some.mp step with ⟨⟨here, drained⟩, ⟨⟩⟩
      exact .drains here drained
  | givesUp =>
      rcases Option.ite_none_right_eq_some.mp step with ⟨⟨here, passed, unfinished⟩, ⟨⟩⟩
      exact .givesUp here passed unfinished
  | aborts connection =>
      rcases Option.ite_none_right_eq_some.mp step with ⟨here, turned⟩
      rcases turn_eq_some turned with ⟨there, rfl⟩
      exact .aborts there here
  | delivers =>
      simp only [Server.step] at step
      split at step
      case h_1 here =>
        rcases Option.ite_none_right_eq_some.mp step with ⟨collected, ⟨⟩⟩
        exact .stops here (by simpa using collected)
      case h_2 here =>
        rcases Option.ite_none_right_eq_some.mp step with ⟨drained, ⟨⟩⟩
        exact .timesOut here drained
      case h_3 => cases step

/-- An event of the handle or of a trigger does nothing but act on the exit. -/
theorem Change.acted (change : server.Change event next) (concerns : event.concernsExit = true) :
    ∃ exit, server.exit.Act exit ∧ next = { server with exit } := by
  cases change with
  | acts _ act => exact ⟨_, act, rfl⟩
  | _ => cases concerns

theorem Change.exit_eq (change : server.Change event next) (own : event.concernsExit = false) :
    next.exit = server.exit := by
  cases change with
  | acts concerns =>
      rw [own] at concerns
      cases concerns
  | _ => rfl

/-- A connection that does not start running again adds nothing to what is unfinished. -/
theorem count_running_set_le {connections : List Fate} {connection : Nat}
    (ends : after ≠ .running) :
    (connections.set connection after).count .running ≤ connections.count .running := by
  have gone : (after == .running) = false := beq_eq_false_iff_ne.mpr ends
  by_cases bound : connection < connections.length
  · simp only [List.count_set bound, gone, Bool.false_eq_true, if_false]
    exact Nat.sub_le _ _
  · have same := List.set_eq_of_length_le (a := after) (Nat.le_of_not_lt bound)
    exact Nat.le_of_eq (congrArg (List.count .running) same)

end Steps

/-! ## The invariant -/

/-- What is true of a server in a phase. -/
def Fits (server : Server) : Phase → Prop
  | .accepting | .pausing =>
    .aborted ∉ server.connections ∧ server.overdue = none ∧ server.outcomes = []
  | .draining =>
    server.exit.permit = .used ∧ .aborted ∉ server.connections ∧ server.outcomes = [] ∧
      ∀ count, server.overdue = some count → server.unfinished ≤ count
  | .gathering =>
    server.exit.permit = .used ∧ .aborted ∉ server.connections ∧ server.outcomes = [] ∧
      server.unfinished = 0
  | .closing => server.exit.permit = .used ∧ server.IsLate ∧ server.outcomes = []
  | .ended =>
    server.exit.permit = .used ∧ server.unfinished = 0 ∧
      (server.outcomes = [.stopped] ∧ (∀ fate ∈ server.connections, fate = .collected) ∨
        server.outcomes = [.timedOut] ∧ server.IsLate)

/-- The invariant of a server. -/
structure Sound (server : Server) : Prop where
  counted : server.exit.IsCounted
  fits : server.Fits server.phase

section Invariant

variable {server next : Server} {event : Event} {phase : Phase}

theorem sound_start : Sound {} where
  counted := rfl
  fits := ⟨List.not_mem_nil, rfl, rfl⟩

theorem Fits.act {exit : Exit} (fits : server.Fits phase) (act : server.exit.Act exit) :
    Fits { server with exit } phase := by
  cases phase with
  | accepting | pausing => exact fits
  | draining | gathering | closing | ended =>
      rcases fits with ⟨used, rest⟩
      have stays := act.stays (by rw [used, Permit.isHeld])
      exact ⟨stays.1.trans used, rest⟩

/-- A connection finishes, or one that has finished is collected while the server runs, or one is
aborted when the server has given up. -/
theorem Fits.turn {connection : Nat} {before after : Fate} (fits : server.Fits phase)
    (there : server.connections[connection]? = some before)
    (legal : before = .running ∧ after = .finished ∨ after = .collected ∧ phase ≠ .ended ∨
      after = .aborted ∧ phase = .closing) :
    Fits { server with connections := server.connections.set connection after } phase := by
  have ends : after ≠ .running := by
    rcases legal with ⟨_, rfl⟩ | ⟨rfl, _⟩ | ⟨rfl, _⟩ <;> decide
  have fewer : (server.connections.set connection after).count .running ≤ server.unfinished :=
    count_running_set_le ends
  have intact (before : .aborted ∉ server.connections) (serving : phase ≠ .closing) :
      .aborted ∉ server.connections.set connection after := by
    intro mem
    rcases List.mem_or_eq_of_mem_set mem with mem | rfl
    · exact before mem
    · simp [serving] at legal
  cases phase with
  | accepting | pausing => exact ⟨intact fits.1 nofun, fits.2⟩
  | draining =>
      rcases fits with ⟨used, unaborted, undelivered, bounded⟩
      refine ⟨used, intact unaborted nofun, undelivered, fun count passed => ?_⟩
      exact Nat.le_trans fewer (bounded count passed)
  | gathering =>
      rcases fits with ⟨used, unaborted, undelivered, drained⟩
      refine ⟨used, intact unaborted nofun, undelivered, ?_⟩
      exact Nat.le_zero.mp (drained ▸ fewer)
  | closing => exact fits
  | ended =>
      rcases fits with ⟨_, drained, _⟩
      rcases legal with ⟨rfl, _⟩ | ⟨_, other⟩ | ⟨_, other⟩
      · exact absurd (List.mem_of_getElem? there) (List.count_eq_zero.mp drained)
      · exact absurd rfl other
      · cases other

theorem Sound.of_phase (counted : server.exit.IsCounted) (here : server.phase = phase)
    (fits : server.Fits phase) : server.Sound :=
  ⟨counted, here ▸ fits⟩

theorem Sound.change (sound : server.Sound) (change : server.Change event next) : next.Sound := by
  rcases sound with ⟨counted, fits⟩
  cases change with
  | acts concerns act => exact ⟨act.isCounted counted, fits.act act⟩
  | accepts here =>
      rw [here] at fits
      refine .of_phase counted here ⟨?_, fits.2⟩
      simpa using fits.1
  | fails here => exact ⟨counted, fits⟩
  | pauses here | resumes here =>
      rw [here] at fits
      exact .of_phase counted rfl fits
  | noticesLoss here listens lost => exact ⟨counted, fits⟩
  | finishes there => exact ⟨counted, fits.turn there (.inl ⟨rfl, rfl⟩)⟩
  | collects there here =>
      refine ⟨counted, fits.turn there (.inr (.inl ⟨rfl, ?_⟩))⟩
      rcases here with here | here | here <;> simp [here]
  | aborts there here => exact ⟨counted, fits.turn there (.inr (.inr ⟨rfl, here⟩))⟩
  | leaves here listens used =>
      rw [here] at fits
      rcases fits with ⟨intact, undue, undelivered⟩
      refine .of_phase counted rfl ⟨used, intact, undelivered, fun count passed => ?_⟩
      cases undue.symm.trans passed
  | meetsDeadline here undue =>
      rw [here] at fits
      rcases fits with ⟨used, intact, undelivered, _⟩
      refine .of_phase counted here ⟨used, intact, undelivered, fun count passed => ?_⟩
      exact Nat.le_of_eq (Option.some.inj passed)
  | drains here drained =>
      rw [here] at fits
      rcases fits with ⟨used, intact, undelivered, _⟩
      exact .of_phase counted rfl ⟨used, intact, undelivered, drained⟩
  | givesUp here passed unfinished =>
      rw [here] at fits
      rcases fits with ⟨used, _, undelivered, bounded⟩
      rcases Option.isSome_iff_exists.mp passed with ⟨count, passed⟩
      have bound := bounded count passed
      refine .of_phase counted rfl ⟨used, ⟨count - 1, ?_⟩, undelivered⟩
      refine passed.trans (congrArg some ?_)
      omega
  | stops here collected =>
      rw [here] at fits
      rcases fits with ⟨used, _, undelivered, drained⟩
      refine .of_phase counted rfl ⟨used, drained, .inl ⟨?_, collected⟩⟩
      rw [undelivered, List.nil_append]
  | timesOut here drained =>
      rw [here] at fits
      rcases fits with ⟨used, late, undelivered⟩
      refine .of_phase counted rfl ⟨used, drained, .inr ⟨?_, late⟩⟩
      rw [undelivered, List.nil_append]

end Invariant

section Frames

variable {server next : Server} {event : Event} {later : List Event}

theorem unfinished_withExit (server : Server) (exit : Exit) :
    unfinished { server with exit } = server.unfinished :=
  rfl

/-- What the server does by itself depends on the permit alone and leaves the exit as it is. -/
theorem step_withExit (own : event.concernsExit = false) {exit : Exit}
    (same : exit.permit = server.exit.permit) :
    Server.step { server with exit } event =
      (server.step event).map fun next => { next with exit } := by
  cases event with
  | shutdown | arm | triggerCompletes | triggerAbandoned | handleWaits => cases own
  | acceptFails faultOfConnection =>
      cases faultOfConnection <;>
        simp only [Server.step, enter, apply_ite (Option.map _), Option.map_some, Option.map_none,
          Bool.false_eq_true, if_true, if_false]
  | finishes connection | collects connection | aborts connection =>
      simp only [Server.step, turn, apply_ite (Option.map _), Option.map_some, Option.map_none]
  | delivers =>
      cases server with | mk _ phase =>
      cases phase <;>
        simp only [Server.step, apply_ite (Option.map _), Option.map_some, Option.map_none]
      rfl
  | accepts | resumes | receivesExit | noticesLoss | deadlinePasses =>
      simp only [Server.step, enter, unfinished_withExit, same, apply_ite (Option.map _),
        Option.map_some, Option.map_none]
  | drains | givesUp =>
      simp only [Server.step, enter, apply_ite (Option.map _), Option.map_some, Option.map_none]
      rfl

theorem run_withExit (server : Server) (exit : Exit) {events : List Event}
    (own : ∀ event ∈ events, event.concernsExit = false)
    (same : exit.permit = server.exit.permit) :
    Server.run { server with exit } events =
      (server.run events).map fun next => { next with exit } := by
  induction events generalizing server with
  | nil => rfl
  | cons event events ih =>
      rcases List.forall_mem_cons.mp own with ⟨first, rest⟩
      rw [run_cons, run_cons, step_withExit first same]
      cases stepped : server.step event with
      | none => rfl
      | some next =>
          have kept := (change_of_step stepped).exit_eq first
          exact ih next rest (same.trans (congrArg Exit.permit kept.symm))

end Frames

/-! ## What has happened -/

/-- The event uses the permit: it sends the exit event. -/
def Sends (server : Server) (event : Event) : Prop :=
  event = .shutdown ∧ server.exit.permit = .withHandle ∨
    ∃ number, event = .triggerCompletes number ∧ server.exit.permit = .withTrigger number

/-- The deadline passes while a connection is running. -/
def RunsLate (server : Server) (event : Event) : Prop :=
  event = .deadlinePasses ∧ .running ∈ server.connections

/-- Among the events from the start there was one that happened to a server in this way. -/
def Happened (events : List Event) (how : Server → Event → Prop) : Prop :=
  ∃ before event after server,
    events = before ++ event :: after ∧ run {} before = some server ∧ how server event

section History

variable {server next : Server} {event : Event} {events later : List Event}

theorem Happened.concat {how : Server → Event → Prop} (happened : Happened events how) :
    Happened (events ++ [event]) how := by
  rcases happened with ⟨before, first, after, earlier, rfl, run, holds⟩
  exact ⟨before, first, after ++ [event], earlier, by simp, run, holds⟩

/-- What is not so at the start and is so now has become so at some event. -/
theorem happened_of_becoming (holds : Server → Prop) {how : Server → Event → Prop}
    (start : ¬ holds {})
    (becoming : ∀ {server event next}, server.step event = some next → ¬ holds server →
      holds next → how server event)
    (run : Server.run {} events = some server) (now : holds server) : Happened events how := by
  induction events using List.reverseRecOn generalizing server with
  | nil =>
      cases run
      exact absurd now start
  | append_singleton events event ih =>
      rw [run_concat] at run
      rcases Option.bind_eq_some_iff.mp run with ⟨earlier, reached, step⟩
      by_cases already : holds earlier
      · exact (ih reached already).concat
      · exact ⟨events, event, [], earlier, rfl, reached,
          becoming step already now⟩

theorem Sound.run (sound : server.Sound) (run : server.run later = some next) : next.Sound :=
  run_keeps Sound sound (fun _ _ _ sound step => sound.change (change_of_step step)) run

theorem sound_of_run (run : Server.run {} events = some server) : server.Sound :=
  sound_start.run run

theorem Sound.used_of_hasLeft (sound : server.Sound) (left : server.HasLeft) :
    server.exit.permit = .used := by
  rcases sound with ⟨_, fits⟩
  cases here : server.phase with
  | accepting => exact absurd here left.1
  | pausing => exact absurd here left.2
  | draining | gathering | closing | ended =>
      rw [here] at fits
      exact fits.1

theorem Sound.isLate_of_aborted (sound : server.Sound) (aborted : .aborted ∈ server.connections) :
    server.IsLate := by
  rcases sound with ⟨_, fits⟩
  cases here : server.phase with
  | accepting | pausing =>
      rw [here] at fits
      exact absurd aborted fits.1
  | draining | gathering =>
      rw [here] at fits
      exact absurd aborted fits.2.1
  | closing =>
      rw [here] at fits
      exact fits.2.1
  | ended =>
      rw [here] at fits
      rcases fits with ⟨_, _, ⟨_, collected⟩ | ⟨_, late⟩⟩
      · cases collected _ aborted
      · exact late

/-- No outcome has been delivered unless the server has ended. -/
theorem Sound.ended_of_outcome (sound : server.Sound) (delivered : server.outcomes ≠ []) :
    server.Fits .ended := by
  rcases sound with ⟨_, fits⟩
  cases here : server.phase with
  | ended =>
      rw [here] at fits
      exact fits
  | accepting | pausing | closing =>
      rw [here] at fits
      exact absurd fits.2.2 delivered
  | draining | gathering =>
      rw [here] at fits
      exact absurd fits.2.2.1 delivered

theorem sends_of_step (step : server.step event = some next)
    (sent : next.exit.sent ≠ server.exit.sent) : server.Sends event := by
  cases event with
  | shutdown =>
      cases step
      by_cases held : server.exit.permit = .withHandle
      · exact .inl ⟨rfl, held⟩
      · simp [Exit.shutdown, held] at sent
  | triggerCompletes number =>
      rcases Option.ite_none_right_eq_some.mp step with ⟨_, ⟨⟩⟩
      by_cases held : server.exit.permit = .withTrigger number
      · exact .inr ⟨number, rfl, held⟩
      · simp [Exit.complete, Exit.isAwaited, held] at sent
  | arm =>
      cases step
      exact absurd rfl sent
  | triggerAbandoned =>
      cases step
      cases server with | mk exit =>
      cases exit with | mk permit =>
      cases permit <;> exact absurd rfl sent
  | handleWaits =>
      cases step
      cases server with | mk exit =>
      cases exit with | mk permit =>
      cases permit <;> exact absurd rfl sent
  | _ => exact absurd (congrArg Exit.sent ((change_of_step step).exit_eq rfl)) sent

theorem Change.runsLate (change : server.Change event next) (early : ¬ server.IsLate)
    (late : next.IsLate) : server.RunsLate event := by
  cases change with
  | meetsDeadline here undue =>
      rcases late with ⟨count, passed⟩
      have unfinished : 0 < server.unfinished := Nat.lt_of_lt_of_eq count.succ_pos
        (Option.some.inj passed).symm
      exact ⟨rfl, List.count_pos_iff.mp unfinished⟩
  | _ => exact absurd late early

theorem Change.hasLeft (change : server.Change event next) (left : server.HasLeft) :
    next.HasLeft ∧ event ≠ .accepts ∧ next.connections.length = server.connections.length := by
  cases change with
  | acts concerns act =>
      refine ⟨left, ?_, rfl⟩
      rintro rfl
      cases concerns
  | accepts here | fails here | pauses here | leaves here | noticesLoss here =>
      exact absurd here left.1
  | resumes here => exact absurd here left.2
  | finishes | collects | aborts => exact ⟨left, nofun, List.length_set⟩
  | meetsDeadline => exact ⟨left, nofun, rfl⟩
  | drains | givesUp | stops | timesOut => exact ⟨⟨nofun, nofun⟩, nofun, rfl⟩

theorem hasLeft_run (left : server.HasLeft) (run : server.run later = some next) :
    next.HasLeft ∧ .accepts ∉ later ∧ next.connections.length = server.connections.length := by
  induction later generalizing server with
  | nil =>
      cases run
      exact ⟨left, List.not_mem_nil, rfl⟩
  | cons event later ih =>
      rcases Option.bind_eq_some_iff.mp run with ⟨between, step, rest⟩
      rcases (change_of_step step).hasLeft left with ⟨left, other, same⟩
      rcases ih left rest with ⟨left, others, same'⟩
      refine ⟨left, ?_, same'.trans same⟩
      rintro (_ | ⟨_, mem⟩)
      · exact other rfl
      · exact others mem

/-- A permit that nobody holds stays where it is, and the exit event is not sent any more. -/
theorem run_unheld (unheld : server.exit.permit.isHeld = false)
    (run : server.run later = some next) :
    next.exit.permit = server.exit.permit ∧ next.exit.sent = server.exit.sent := by
  apply run_keeps (fun reached => reached.exit.permit = server.exit.permit ∧
    reached.exit.sent = server.exit.sent) ⟨rfl, rfl⟩ _ run
  intro reached event after same step
  cases change_of_step step with
  | acts _ act =>
      have stays := act.stays (by rw [same.1, unheld])
      exact ⟨stays.1.trans same.1, stays.2.trans same.2⟩
  | _ => exact same

/-- Once nobody holds the permit, the events of the handle and of the triggers change nothing but
what the exit remembers of them. -/
theorem run_filter (unheld : server.exit.permit.isHeld = false)
    (run : server.run later = some next) :
    server.run (later.filter fun event => !event.concernsExit) =
      some { next with exit := server.exit } := by
  induction later generalizing server with
  | nil =>
      cases run
      rfl
  | cons event later ih =>
      rcases Option.bind_eq_some_iff.mp run with ⟨between, step, rest⟩
      have change := change_of_step step
      cases concerns : event.concernsExit with
      | true =>
          rcases change.acted concerns with ⟨exit, act, rfl⟩
          have same := (act.stays unheld).1
          have skipped := ih (by rw [same, unheld]) rest
          have own : ∀ event ∈ later.filter fun event => !event.concernsExit,
              event.concernsExit = false := by simp
          have back := run_withExit { server with exit } server.exit own same.symm
          rw [skipped] at back
          simpa [concerns] using back
      | false =>
          have same := change.exit_eq concerns
          have kept := ih (by rw [same, unheld]) rest
          rw [same] at kept
          simpa [concerns, run_cons, step] using kept

end History

/-- The events tell how many connections there are, which of them have finished and which have been
aborted. -/
structure IsTold (events : List Event) (server : Server) : Prop where
  accepted : events.count .accepts = server.connections.length
  finished : ∀ connection fate, server.connections[connection]? = some fate →
    fate = .finished ∨ fate = .collected → .finishes connection ∈ events
  aborted : ∀ connection, .aborts connection ∈ events →
    server.connections[connection]? = some .aborted

section Told

variable {server next : Server} {event : Event} {events : List Event}

theorem isTold_start : IsTold [] {} where
  accepted := rfl
  finished := nofun
  aborted := nofun

/-- Events that are not about a connection add nothing to the tale. -/
theorem IsTold.skip (told : IsTold events server) (same : next.connections = server.connections)
    (other : event ≠ .accepts) (spared : ∀ connection, event ≠ .aborts connection) :
    IsTold (events ++ [event]) next where
  accepted := by
    rw [List.count_append, List.count_singleton, if_neg (by simpa using other), same]
    exact told.accepted
  finished connection fate there gone :=
    List.mem_append_left _ (told.finished connection fate (same ▸ there) gone)
  aborted connection mem := by
    rw [List.mem_append, List.mem_singleton] at mem
    rcases mem with mem | rfl
    · exact same ▸ told.aborted connection mem
    · exact absurd rfl (spared connection)

theorem IsTold.accept (told : IsTold events server)
    (more : next.connections = server.connections ++ [.running]) :
    IsTold (events ++ [.accepts]) next where
  accepted := by simp [more, told.accepted]
  finished connection fate there gone := by
    rw [more, List.getElem?_append] at there
    split at there
    case isTrue => exact List.mem_append_left _ (told.finished connection fate there gone)
    case isFalse =>
      have running : fate = .running := by simpa using List.mem_of_getElem? there
      simp [running] at gone
  aborted connection mem := by
    have already := told.aborted connection (by simpa using mem)
    have bound : connection < server.connections.length :=
      (List.getElem?_eq_some_iff.mp already).1
    rw [more, List.getElem?_append_left bound]
    exact already

/-- A connection that has not been aborted gets another fate, which the event tells. -/
theorem IsTold.turn {connection : Nat} {before after : Fate} (told : IsTold events server)
    (there : server.connections[connection]? = some before) (unaborted : before ≠ .aborted)
    (turned : next.connections = server.connections.set connection after)
    (other : event ≠ .accepts)
    (finishes : after = .finished ∨ after = .collected → .finishes connection ∈ events ++ [event])
    (aborts : ∀ number, event = .aborts number → number = connection ∧ after = .aborted) :
    IsTold (events ++ [event]) next where
  accepted := by
    rw [List.count_append, List.count_singleton, if_neg (by simpa using other), turned,
      List.length_set]
    exact told.accepted
  finished number fate found gone := by
    rw [turned, List.getElem?_set] at found
    split at found
    case isTrue same =>
      subst same
      rcases Option.ite_none_right_eq_some.mp found with ⟨_, ⟨⟩⟩
      exact finishes gone
    case isFalse => exact List.mem_append_left _ (told.finished number fate found gone)
  aborted number mem := by
    have bound : connection < server.connections.length := (List.getElem?_eq_some_iff.mp there).1
    rw [List.mem_append, List.mem_singleton] at mem
    rw [turned, List.getElem?_set]
    rcases mem with mem | same
    · have already := told.aborted number mem
      rw [if_neg]
      · exact already
      · rintro rfl
        exact unaborted (Option.some.inj (there.symm.trans already))
    · rcases aborts number same.symm with ⟨rfl, rfl⟩
      rw [if_pos rfl, if_pos bound]

theorem IsTold.change (told : IsTold events server) (change : server.Change event next) :
    IsTold (events ++ [event]) next := by
  cases change with
  | acts concerns act =>
      refine told.skip rfl ?_ (fun connection => ?_) <;>
        · rintro rfl
          cases concerns
  | accepts here => exact told.accept rfl
  | finishes there =>
      exact told.turn there (by decide) rfl (by simp) (fun _ => List.mem_append_right _ (by simp))
        (by simp)
  | collects there here =>
      have finished := told.finished _ _ there (.inl rfl)
      exact told.turn there (by decide) rfl (by simp) (fun _ => List.mem_append_left _ finished)
        (by simp)
  | aborts there here => exact told.turn there (by decide) rfl (by simp) (by simp) (by simp)
  | _ => exact told.skip rfl (by simp) (by simp)

theorem isTold_of_run (run : Server.run {} events = some server) : IsTold events server := by
  induction events using List.reverseRecOn generalizing server with
  | nil =>
      cases run
      exact isTold_start
  | append_singleton events event ih =>
      rw [run_concat] at run
      rcases Option.bind_eq_some_iff.mp run with ⟨earlier, reached, step⟩
      exact (ih reached).change (change_of_step step)

end Told

/-! ## An orderly end -/

/-- What can be relied on when the events have led to the server. Where it speaks of later events,
they are any that are possible; `sends_once` compares them with those that are left without the
events of the handle and of the triggers. -/
structure Orderly (events : List Event) (server : Server) : Prop where
  leaves_after_exit : server.HasLeft → server.exit.sent = 1 ∧ Happened events Sends
  stays_of_lost : server.exit.permit = .lost →
    server.exit.sent = 0 ∧ ∀ later next, server.run later = some next → ¬ next.HasLeft
  closed : server.HasLeft → ∀ later next, server.run later = some next →
    .accepts ∉ later ∧ next.connections.length = server.connections.length
  aborts_late : .aborted ∈ server.connections → .deadlinePasses ∈ events
  delivers_once : server.outcomes.length ≤ 1
  delivers_idle : server.outcomes ≠ [] → .running ∉ server.connections
  stopped : .stopped ∈ server.outcomes → ∀ connection < events.count .accepts,
    .finishes connection ∈ events ∧ .aborts connection ∉ events
  timedOut : .timedOut ∈ server.outcomes → Happened events RunsLate
  sends_once : server.exit.sent = 1 → ∀ later next, server.run later = some next →
    next.exit.permit = server.exit.permit ∧ next.exit.sent = 1 ∧
      server.run (later.filter fun event => !event.concernsExit) =
        some { next with exit := server.exit }

section Order

variable {server next : Server} {event : Event} {events later : List Event}

theorem isLate_happened (run : Server.run {} events = some server) (late : server.IsLate) :
    Happened events RunsLate :=
  happened_of_becoming IsLate nofun
    (fun step early late => (change_of_step step).runsLate early late) run late

theorem Sound.used_iff (sound : server.Sound) :
    server.exit.permit = .used ↔ server.exit.sent = 1 := by
  rw [sound.counted]
  split <;> simp [*]

theorem sends_happened (run : Server.run {} events = some server) (sent : server.exit.sent = 1) :
    Happened events Sends := by
  apply happened_of_becoming (fun server => server.exit.sent = 1) (by decide) _ run sent
  intro earlier event next step unsent sent
  apply sends_of_step step
  intro same
  exact unsent (same ▸ sent)

theorem Sound.fits_of_stopped (sound : server.Sound) (stopped : .stopped ∈ server.outcomes) :
    ∀ fate ∈ server.connections, fate = .collected := by
  rcases sound.ended_of_outcome (List.ne_nil_of_mem stopped) with ⟨_, _, ⟨_, collected⟩ | ⟨out, _⟩⟩
  · exact collected
  · rw [out] at stopped
    simp at stopped

theorem Sound.isLate_of_timedOut (sound : server.Sound) (timedOut : .timedOut ∈ server.outcomes) :
    server.IsLate := by
  rcases sound.ended_of_outcome (List.ne_nil_of_mem timedOut) with ⟨_, _, ⟨out, _⟩ | ⟨_, late⟩⟩
  · rw [out] at timedOut
    simp at timedOut
  · exact late

/-- The events of a server may come in any order: it ends in an orderly way. -/
theorem orderly_of_run (run : Server.run {} events = some server) : Orderly events server where
  leaves_after_exit left := by
    have sent := (sound_of_run run).used_iff.mp ((sound_of_run run).used_of_hasLeft left)
    exact ⟨sent, sends_happened run sent⟩
  stays_of_lost lost := by
    have sound := sound_of_run run
    refine ⟨by rw [sound.counted, lost, if_neg nofun], fun later next rest left => ?_⟩
    have used := (sound.run rest).used_of_hasLeft left
    rw [(run_unheld (by rw [lost, Permit.isHeld]) rest).1, lost] at used
    cases used
  closed left later next rest := (hasLeft_run left rest).2
  aborts_late aborted := by
    have late := (sound_of_run run).isLate_of_aborted aborted
    rcases isLate_happened run late with ⟨before, _, after, _, rfl, _, rfl, _⟩
    simp
  delivers_once := by
    by_cases delivered : server.outcomes = []
    · simp [delivered]
    · rcases (sound_of_run run).ended_of_outcome delivered with ⟨_, _, ⟨out, _⟩ | ⟨out, _⟩⟩ <;>
        simp [out]
  delivers_idle delivered := by
    rcases (sound_of_run run).ended_of_outcome delivered with ⟨_, drained, _⟩
    exact List.count_eq_zero.mp drained
  stopped delivered connection accepted := by
    have told := isTold_of_run run
    have collected := (sound_of_run run).fits_of_stopped delivered
    rw [told.accepted] at accepted
    have there := List.getElem?_eq_getElem accepted
    have fate := collected _ (List.mem_of_getElem? there)
    refine ⟨told.finished connection _ there (.inr fate), fun aborted => ?_⟩
    have other := told.aborted connection aborted
    cases collected _ (List.mem_of_getElem? other)
  timedOut delivered := isLate_happened run ((sound_of_run run).isLate_of_timedOut delivered)
  sends_once sent later next rest := by
    have used := (sound_of_run run).used_iff.mpr sent
    have unheld : server.exit.permit.isHeld = false := by rw [used, Permit.isHeld]
    have same := run_unheld unheld rest
    exact ⟨same.1, same.2.trans sent, run_filter unheld rest⟩

/-- Of two connections one finishes after the exit event, and the other is aborted after the
deadline. A second request for shutdown has no effect. -/
theorem orderly_late_connection :
    let events : List Event := [.accepts, .accepts, .shutdown, .receivesExit, .finishes 0,
      .shutdown, .deadlinePasses, .givesUp, .aborts 1, .delivers]
    ∃ server, Server.run {} events = some server ∧ server.outcomes = [.timedOut] ∧
      server.connections = [.finished, .aborted] ∧ Orderly events server :=
  ⟨_, rfl, rfl, rfl, orderly_of_run rfl⟩

example :
    (Server.run {} [.accepts, .arm, .triggerCompletes 0, .receivesExit, .deadlinePasses,
      .finishes 0, .drains, .collects 0, .delivers]).map outcomes = some [.stopped] := by
  decide

end Order

end Server

end LinkGuard.Lifecycle
