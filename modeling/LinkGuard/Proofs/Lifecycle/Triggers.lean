import LinkGuard.Proofs.Lifecycle.Shutdown

/-!
# The first use of the handle

The handle can ask for shutdown now or on completion of a trigger, any number of times. Only its
first use finds the permit with it. So the first use decides alone whether the exit event is sent:
at once, when its trigger completes, or never. What is asked for later changes nothing, not even a
shutdown now behind a trigger that does not complete.
-/

namespace LinkGuard.Lifecycle

/-- The event uses the handle. -/
def Event.usesHandle : Event → Bool
  | .shutdown | .arm | .handleWaits => true
  | _ => false

theorem Event.other_of_unused {event : Event} (unused : event.usesHandle = false) :
    event ≠ .shutdown ∧ event ≠ .arm := by
  constructor
  · rintro rfl
    cases unused
  · rintro rfl
    cases unused

/-- Where the permit is after an event, when there were some triggers before. -/
def Permit.after (triggers : Nat) : Permit → Event → Permit
  | .withHandle, .shutdown => .used
  | .withHandle, .arm => .withTrigger triggers
  | .withHandle, .handleWaits => .lost
  | .withTrigger number, .triggerCompletes completed =>
    if completed = number then .used else .withTrigger number
  | .withTrigger _, .triggerAbandoned => .lost
  | permit, _ => permit

namespace Server

variable {server next : Server} {event : Event} {events : List Event} {number : Nat}

theorem permit_of_step (step : server.step event = some next) :
    next.exit.permit = server.exit.permit.after server.exit.triggers event := by
  cases event with
  | shutdown =>
      cases step
      cases held : server.exit.permit <;> simp [Exit.shutdown, Exit.send, Permit.after, held]
  | arm =>
      cases step
      cases held : server.exit.permit <;> simp [Exit.arm, Permit.after, held]
  | handleWaits =>
      cases step
      cases held : server.exit.permit <;> simp [Exit.giveUp, Permit.after, held]
  | triggerAbandoned =>
      cases step
      cases held : server.exit.permit <;> simp [Exit.abandon, Permit.after, held]
  | triggerCompletes completed =>
      rcases Option.ite_none_right_eq_some.mp step with ⟨_, ⟨⟩⟩
      cases held : server.exit.permit with
      | withTrigger number =>
          by_cases same : number = completed
          · simp [Exit.complete, Exit.isAwaited, Exit.send, Permit.after, held, same]
          · simp [Exit.complete, Exit.isAwaited, Permit.after, held, same, Ne.symm same]
      | withHandle | used | lost => simp [Exit.complete, Exit.isAwaited, Permit.after, held]
  | _ =>
      rw [(change_of_step step).exit_eq rfl]
      cases server.exit.permit <;> rfl

/-- Triggers are made by arming only. -/
theorem triggers_of_step (step : server.step event = some next) (other : event ≠ .arm) :
    next.exit.triggers = server.exit.triggers := by
  cases event with
  | shutdown =>
      cases step
      rw [Exit.shutdown]
      split <;> rfl
  | arm => exact absurd rfl other
  | handleWaits =>
      cases step
      rw [Exit.giveUp]
      split <;> rfl
  | triggerAbandoned =>
      cases step
      rw [Exit.abandon]
      split <;> rfl
  | triggerCompletes completed =>
      rcases Option.ite_none_right_eq_some.mp step with ⟨_, ⟨⟩⟩
      rw [Exit.complete]
      split <;> rfl
  | _ => rw [(change_of_step step).exit_eq rfl]

/-- The events reach a certain one behind others that let it pass, and go on from there. -/
def Reaches (passes : Event → Prop) (wanted : Event) (goesOn : List Event → Prop)
    (events : List Event) : Prop :=
  ∃ before after, events = before ++ wanted :: after ∧ (∀ event ∈ before, passes event) ∧
    goesOn after

section Reaching

variable {passes : Event → Prop} {wanted : Event} {goesOn : List Event → Prop}

theorem not_reaches_nil : ¬Reaches passes wanted goesOn [] := by
  rintro ⟨before, after, split, _⟩
  cases before <;> cases split

theorem reaches_cons : Reaches passes wanted goesOn (event :: events) ↔
    event = wanted ∧ goesOn events ∨ passes event ∧ Reaches passes wanted goesOn events := by
  constructor
  · rintro ⟨before, after, split, passed, rest⟩
    cases before with
    | nil =>
        cases split
        exact .inl ⟨rfl, rest⟩
    | cons first before =>
        cases split
        rw [List.forall_mem_cons] at passed
        exact .inr ⟨passed.1, before, after, rfl, passed.2, rest⟩
  · rintro (⟨rfl, rest⟩ | ⟨passes_first, before, after, rfl, passed, rest⟩)
    · exact ⟨[], events, rfl, nofun, rest⟩
    · exact ⟨event :: before, after, rfl, List.forall_mem_cons.mpr ⟨passes_first, passed⟩, rest⟩

end Reaching

/-- The trigger completes, and no trigger is abandoned before. -/
def Completes (number : Nat) : List Event → Prop :=
  Reaches (· ≠ .triggerAbandoned) (.triggerCompletes number) fun _ => True

/-- The first use of the handle asks for shutdown now. -/
def AsksFirst : List Event → Prop :=
  Reaches (·.usesHandle = false) .shutdown fun _ => True

/-- The first use of the handle arms the first trigger, which then completes. -/
def ArmsFirst : List Event → Prop :=
  Reaches (·.usesHandle = false) .arm (Completes 0)

theorem used_run (used : server.exit.permit = .used) (run : server.run events = some next) :
    next.exit.permit = .used :=
  (run_unheld (by rw [used, Permit.isHeld]) run).1.trans used

theorem not_used_run (lost : server.exit.permit = .lost) (run : server.run events = some next) :
    next.exit.permit ≠ .used := by
  rw [(run_unheld (by rw [lost, Permit.isHeld]) run).1, lost]
  intro used
  cases used

/-- A trigger with the permit uses it by completing. -/
theorem used_iff_completes (held : server.exit.permit = .withTrigger number)
    (run : server.run events = some next) :
    next.exit.permit = .used ↔ Completes number events := by
  induction events generalizing server with
  | nil =>
      cases run
      rw [held]
      exact iff_of_false nofun not_reaches_nil
  | cons event events ih =>
      rcases Option.bind_eq_some_iff.mp run with ⟨between, step, rest⟩
      have permit_eq := permit_of_step step
      rw [held] at permit_eq
      rw [Completes, reaches_cons]
      by_cases completes : event = .triggerCompletes number
      · subst completes
        rw [Permit.after, if_pos rfl] at permit_eq
        exact iff_of_true (used_run permit_eq rest) (.inl ⟨rfl, trivial⟩)
      · by_cases abandoned : event = .triggerAbandoned
        · subst abandoned
          rw [Permit.after] at permit_eq
          exact iff_of_false (not_used_run permit_eq rest) (by simp)
        · have kept : between.exit.permit = .withTrigger number := by
            rw [permit_eq]
            cases event with
            | triggerCompletes other =>
                rw [Permit.after, if_neg]
                rintro rfl
                exact completes rfl
            | triggerAbandoned => exact absurd rfl abandoned
            | _ => rfl
          rw [ih kept rest]
          simp [completes, abandoned, Completes]

/-- The handle with the permit uses it by asking for shutdown, or by arming a trigger that
completes, with the first of its uses. -/
theorem used_iff_asksFirst_or_armsFirst (held : server.exit.permit = .withHandle)
    (none_yet : server.exit.triggers = 0) (run : server.run events = some next) :
    next.exit.permit = .used ↔ AsksFirst events ∨ ArmsFirst events := by
  induction events generalizing server with
  | nil =>
      cases run
      rw [held]
      exact iff_of_false nofun (not_or.mpr ⟨not_reaches_nil, not_reaches_nil⟩)
  | cons event events ih =>
      rcases Option.bind_eq_some_iff.mp run with ⟨between, step, rest⟩
      have permit_eq := permit_of_step step
      rw [held, none_yet] at permit_eq
      rw [AsksFirst, ArmsFirst, reaches_cons, reaches_cons]
      cases uses : event.usesHandle with
      | true =>
          cases event with
          | shutdown => exact iff_of_true (used_run permit_eq rest) (.inl (.inl ⟨rfl, trivial⟩))
          | arm => simp [used_iff_completes permit_eq rest]
          | handleWaits => exact iff_of_false (not_used_run permit_eq rest) (by simp)
          | _ => cases uses
      | false =>
          have kept : between.exit.permit = .withHandle := by
            rw [permit_eq]
            cases event with
            | shutdown | arm | handleWaits => cases uses
            | _ => rfl
          have other := Event.other_of_unused uses
          have none_later := (triggers_of_step step other.2).trans none_yet
          rw [ih kept none_later rest]
          simp [other, AsksFirst, ArmsFirst]

theorem completes_iff_mem (kept : .triggerAbandoned ∉ events) :
    Completes number events ↔ .triggerCompletes number ∈ events := by
  constructor
  · rintro ⟨before, after, rfl, _⟩
    simp
  · intro mem
    rcases List.append_of_mem mem with ⟨before, after, rfl⟩
    refine ⟨before, after, rfl, ?_, trivial⟩
    rintro event mem rfl
    exact kept (List.mem_append_left _ mem)

/-- As long as the handle is there and no trigger is abandoned, the first trigger has completed only
if it was armed, and it has the permit if it was armed by the first use of the handle. -/
theorem asksFirst_or_armsFirst_iff (none_yet : server.exit.triggers = 0)
    (run : server.run events = some next) (there : .handleWaits ∉ events)
    (kept : .triggerAbandoned ∉ events) :
    AsksFirst events ∨ ArmsFirst events ↔ AsksFirst events ∨ .triggerCompletes 0 ∈ events := by
  induction events generalizing server with
  | nil => simp [ArmsFirst, not_reaches_nil]
  | cons event events ih =>
      rcases Option.bind_eq_some_iff.mp run with ⟨between, step, rest⟩
      rw [List.mem_cons, not_or] at there kept
      rw [AsksFirst, ArmsFirst, reaches_cons, reaches_cons, List.mem_cons]
      cases uses : event.usesHandle with
      | true =>
          cases event with
          | shutdown => exact iff_of_true (.inl (.inl ⟨rfl, trivial⟩)) (.inl (.inl ⟨rfl, trivial⟩))
          | arm => simp [completes_iff_mem kept.2]
          | handleWaits => exact absurd rfl there.1
          | _ => cases uses
      | false =>
          have other := Event.other_of_unused uses
          have early : event ≠ .triggerCompletes 0 := by
            rintro rfl
            rcases Option.ite_none_right_eq_some.mp step with ⟨pending, _⟩
            simp [Exit.isPending, none_yet] at pending
          have none_later := (triggers_of_step step other.2).trans none_yet
          have later := ih none_later rest there.2 kept.2
          simp only [AsksFirst, ArmsFirst] at later
          simpa [other, early.symm] using later

/-- In every life of a server the exit event is sent at most once, and just if the first use of the
handle asks for shutdown or arms a trigger that completes before it is abandoned. So as long as the
handle is there and no trigger is abandoned, the event has been sent just if a shutdown was asked
for before anything was armed, or the trigger that was armed first has completed. -/
theorem sent_by_first_use (run : Server.run {} events = some server) :
    server.exit.sent ≤ 1 ∧
    (server.exit.sent = 1 ↔ AsksFirst events ∨ ArmsFirst events) ∧
    (.handleWaits ∉ events → .triggerAbandoned ∉ events →
      (server.exit.sent = 1 ↔ AsksFirst events ∨ .triggerCompletes 0 ∈ events)) := by
  have sound := sound_of_run run
  have sent_iff : server.exit.sent = 1 ↔ AsksFirst events ∨ ArmsFirst events := by
    rw [← sound.used_iff]
    exact used_iff_asksFirst_or_armsFirst rfl rfl run
  refine ⟨?_, sent_iff, fun there kept => ?_⟩
  · rw [sound.counted]
    split <;> decide
  · rw [sent_iff]
    exact asksFirst_or_armsFirst_iff rfl run there kept

/-- A shutdown behind an armed trigger is started when the trigger completes, and a trigger that was
armed later does not start it. -/
theorem sent_by_first_use_armed :
    let events : List Event := [.arm, .shutdown, .arm, .triggerCompletes 1, .triggerCompletes 0]
    ∃ server, Server.run {} events = some server ∧ .shutdown ∈ events ∧ .handleWaits ∉ events ∧
      .triggerAbandoned ∉ events ∧ server.exit.sent = 1 ∧
      ∃ early, Server.run {} (events.take 4) = some early ∧ early.exit.sent ≠ 1 := by
  intro events
  refine ⟨_, rfl, by decide, by decide, by decide, ?_, _, rfl, ?_⟩
  · rcases @sent_by_first_use _ events rfl with ⟨_, _, sent_iff⟩
    exact (sent_iff (by decide) (by decide)).mpr (.inr (by decide))
  · decide

/-- A shutdown behind a trigger that does not complete is not started: the server goes on accepting
connections and has nothing else to do. -/
theorem shutdown_lost_behind_trigger :
    ∃ server, Server.run {} [.arm, .shutdown] = some server ∧ server.exit.sent = 0 ∧
      server.phase = .accepting ∧ server.next? = none :=
  ⟨_, rfl, rfl, rfl, by decide⟩

end Server

end LinkGuard.Lifecycle
