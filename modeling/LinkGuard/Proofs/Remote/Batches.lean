import LinkGuard.Proofs.Remote.Steps
import LinkGuard.Remote.Batch

/-!
# What a batch comes to

A batch takes the steps of its order, and then its lookups are taken to their ends unless one of
them has failed. Those last steps could as well have been in the order. So a batch does nothing but
take steps, and its answer can be read off the lookups when it ends. Whatever one step keeps is
therefore kept by a whole batch.
-/

namespace LinkGuard.Remote

variable {World : Type} (outside : Outside (StateM World)) (setup : Setup)

theorem stepAt_of_getElem? {place : Nat} {batch : List Pending} {pending : Pending}
    (here : batch[place]? = some pending) (state : State) (world : World) :
    stepAt outside setup place batch state world =
      let moved := advance outside setup pending.url pending.progress state world
      ((batch.set place ⟨pending.url, moved.1.1⟩, moved.1.2), moved.2) := by
  induction batch generalizing place with
  | nil => cases here
  | cons first rest ih =>
      cases place with
      | zero =>
          cases here
          rfl
      | succ place =>
          have moved := ih here
          simp only [stepAt, bind_apply, pure_apply, moved, List.set_cons_succ]

theorem stepAt_of_none {place : Nat} {batch : List Pending} (nobody : batch[place]? = none)
    (state : State) (world : World) :
    stepAt outside setup place batch state world = ((batch, state), world) := by
  induction batch generalizing place with
  | nil => cases place <;> rfl
  | cons first rest ih =>
      cases place with
      | zero => cases nobody
      | succ place =>
          have stays := ih nobody
          simp only [stepAt, bind_apply, pure_apply, stays]

/-- Lookups in front are not concerned by a step behind them. -/
theorem stepAt_append (front batch : List Pending) (place : Nat) (state : State) (world : World) :
    stepAt outside setup (front.length + place) (front ++ batch) state world =
      let moved := stepAt outside setup place batch state world
      ((front ++ moved.1.1, moved.1.2), moved.2) := by
  induction front with
  | nil =>
      rw [List.length_nil, Nat.zero_add]
      rfl
  | cons first front ih =>
      rw [List.length_cons, Nat.add_right_comm, List.cons_append]
      simp only [stepAt, bind_apply, pure_apply, ih, List.cons_append]

/-- A step leaves the links of a batch as they are. -/
theorem map_url_set {batch : List Pending} {place : Nat} {pending : Pending}
    (here : batch[place]? = some pending) (progress : Progress) :
    (batch.set place ⟨pending.url, progress⟩).map Pending.url = batch.map Pending.url := by
  apply List.ext_getElem?
  intro other
  by_cases same : place = other
  · subst same
    rcases List.getElem?_eq_some_iff.mp here with ⟨bound, rfl⟩
    simp [bound]
  · simp [List.getElem?_set_ne same]

theorem interleave_cons (place : Nat) (order : List Nat) (batch : List Pending) (state : State)
    (world : World) :
    interleave outside setup (place :: order) batch state world =
      let moved := stepAt outside setup place batch state world
      interleave outside setup order moved.1.1 moved.1.2 moved.2 :=
  rfl

theorem interleave_append (order later : List Nat) (batch : List Pending) (state : State)
    (world : World) :
    interleave outside setup (order ++ later) batch state world =
      let moved := interleave outside setup order batch state world
      interleave outside setup later moved.1.1 moved.1.2 moved.2 := by
  induction order generalizing batch state world with
  | nil => rfl
  | cons place order ih =>
      rw [List.cons_append, interleave_cons, interleave_cons]
      apply ih

theorem interleave_shift (front batch : List Pending) (order : List Nat) (state : State)
    (world : World) :
    interleave outside setup (order.map (front.length + ·)) (front ++ batch) state world =
      let moved := interleave outside setup order batch state world
      ((front ++ moved.1.1, moved.1.2), moved.2) := by
  induction order generalizing batch state world with
  | nil => rfl
  | cons place order ih =>
      rw [List.map_cons, interleave_cons, interleave_cons, stepAt_append]
      apply ih

/-- The verdict that is made from an answer. -/
def Setup.verdict (setup : Setup) (url : String) (answer : Answer) (now : Instant) : Verdict :=
  ⟨url, answer.threats, (setup.expiry answer now).getD now⟩

/-- What a step does to a lookup and to the state, given what the clock shows, what the API replies
and what the clock shows then. -/
inductive Turn (setup : Setup) (url : String) (asked : Instant) (reply : Reply)
    (answered : Instant) (state : State) : Progress → Progress × State → Prop
  | finds {verdict : Verdict} (found : state.cache.find url asked asked = .ok (some verdict)) :
      Turn setup url asked reply answered state .waiting
        (.done (.ok (Verdict.findings verdict.threats url)),
          { state with byCache := state.byCache + 1 })
  | asks (missing : ∀ verdict, state.cache.find url asked asked ≠ .ok (some verdict)) :
      Turn setup url asked reply answered state .waiting
        (.asking, { state with byApi := state.byApi + 1 })
  | fails {error : ClientError} (failed : setup.client.interpret url reply = .error error) :
      Turn setup url asked reply answered state .asking
        (.done (.error (.unavailable error.message)),
          { state with
            failed := state.failed + 1, lastError := some (.unavailable error.message) })
  | learns {answer : Answer} (learnt : setup.client.interpret url reply = .ok answer)
      (fresh : (setup.verdict url answer answered).isFresh answered = true) :
      Turn setup url asked reply answered state .asking
        (.storing (setup.verdict url answer answered), { state with lastError := none })
  | passes {answer : Answer} (learnt : setup.client.interpret url reply = .ok answer)
      (stale : (setup.verdict url answer answered).isFresh answered = false) :
      Turn setup url asked reply answered state .asking
        (.done (.ok (Verdict.findings answer.threats url)), { state with lastError := none })
  | stores (verdict : Verdict) :
      Turn setup url asked reply answered state (.storing verdict)
        (.done (.ok (Verdict.findings verdict.threats verdict.url)),
          { state with cache := (state.cache.put verdict).toOption.getD state.cache })
  | rests (result : Except EngineError (List Finding)) :
      Turn setup url asked reply answered state (.done result) (.done result, state)

theorem turn_advance (url : String) (progress : Progress) (state : State) (world : World) :
    let fetched := outside.fetch (setup.client.requestUrl url) world
    Turn setup url (outside.now world).1 fetched.1 (outside.now fetched.2).1 state progress
      (advance outside setup url progress state world).1 := by
  intro fetched
  cases progress with
  | waiting =>
      rw [advance_waiting, State.consult]
      cases found : state.cache.find url (outside.now world).1 (outside.now world).1 with
      | error error =>
          apply Turn.asks
          simp [found]
      | ok given =>
          cases given with
          | none =>
              apply Turn.asks
              simp [found]
          | some verdict => exact .finds found
  | asking =>
      rw [advance_asking]
      simp only [State.receive]
      split
      case h_1 error failed => exact .fails failed
      case h_2 answer learnt =>
        split
        case isTrue fresh => exact .learns learnt fresh
        case isFalse stale => exact .passes learnt (eq_false_of_ne_true stale)
  | storing verdict =>
      rw [advance_storing, State.keep, State.kept_eq]
      exact .stores verdict
  | done result =>
      rw [advance_done]
      exact .rests result

/-- What every step keeps is kept by steps in any order. -/
theorem interleave_keeps {outside : Outside (StateM World)} {setup : Setup}
    (holds : List Pending → State → World → Prop)
    (kept : ∀ {batch state world place pending}, holds batch state world →
      batch[place]? = some pending →
        let moved := advance outside setup pending.url pending.progress state world
        holds (batch.set place ⟨pending.url, moved.1.1⟩) moved.1.2 moved.2)
    (order : List Nat) {batch : List Pending} {state : State} {world : World}
    (start : holds batch state world) :
    let moved := interleave outside setup order batch state world
    holds moved.1.1 moved.1.2 moved.2 := by
  induction order generalizing batch state world with
  | nil => exact start
  | cons place order ih =>
      rw [interleave_cons]
      apply ih
      cases here : batch[place]? with
      | none =>
          rw [stepAt_of_none outside setup here]
          exact start
      | some pending =>
          rw [stepAt_of_getElem? outside setup here]
          exact kept start here

/-- Steps in any order leave the links of a batch as they are. -/
theorem map_url_interleave (order : List Nat) (batch : List Pending) (state : State)
    (world : World) :
    (interleave outside setup order batch state world).1.1.map Pending.url =
      batch.map Pending.url := by
  apply interleave_keeps (fun moved _ _ => moved.map Pending.url = batch.map Pending.url) _ order
    rfl
  intro moved state world place pending same here
  exact (map_url_set here _).trans same

/-- A lookup at none of the places stays as it is. -/
theorem interleave_getElem?_of_not_mem {place : Nat} {order : List Nat} (absent : place ∉ order)
    (batch : List Pending) (state : State) (world : World) :
    (interleave outside setup order batch state world).1.1[place]? = batch[place]? := by
  induction order generalizing batch state world with
  | nil => rfl
  | cons other order ih =>
      rw [List.mem_cons, not_or] at absent
      rw [interleave_cons]
      refine (ih absent.2 _ _ _).trans ?_
      cases here : batch[other]? with
      | none => rw [stepAt_of_none outside setup here]
      | some pending =>
          rw [stepAt_of_getElem? outside setup here]
          exact List.getElem?_set_ne (Ne.symm absent.1)

namespace Progress

/-- The lookup has been served from the cache or has gone on to the API. -/
def hasBegun : Progress → Bool
  | waiting => false
  | asking | storing _ | done _ => true

/-- The lookup has its answer, or does not need one any more. -/
def hasAnswer : Progress → Bool
  | storing _ | done _ => true
  | waiting | asking => false

/-- The lookup has taken its last step. -/
def isDone : Progress → Bool
  | done _ => true
  | waiting | asking | storing _ => false

variable (verdict : Verdict) (result : Except EngineError (List Finding))

@[simp] theorem hasBegun_waiting : waiting.hasBegun = false := rfl

@[simp] theorem hasBegun_asking : asking.hasBegun = true := rfl

@[simp] theorem hasBegun_storing : (storing verdict).hasBegun = true := rfl

@[simp] theorem hasBegun_done : (done result).hasBegun = true := rfl

@[simp] theorem hasAnswer_waiting : waiting.hasAnswer = false := rfl

@[simp] theorem hasAnswer_asking : asking.hasAnswer = false := rfl

@[simp] theorem hasAnswer_storing : (storing verdict).hasAnswer = true := rfl

@[simp] theorem hasAnswer_done : (done result).hasAnswer = true := rfl

@[simp] theorem isDone_waiting : waiting.isDone = false := rfl

@[simp] theorem isDone_asking : asking.isDone = false := rfl

@[simp] theorem isDone_storing : (storing verdict).isDone = false := rfl

@[simp] theorem isDone_done : (done result).isDone = true := rfl

end Progress

/-- How many steps a lookup has before it at most. -/
def Progress.remaining : Progress → Nat
  | waiting => 3
  | asking => 2
  | storing _ => 1
  | done _ => 0

theorem Turn.remaining_le {setup : Setup} {url : String} {asked answered : Instant} {reply : Reply}
    {state : State} {progress : Progress} {next : Progress × State}
    (turn : Turn setup url asked reply answered state progress next) :
    next.1.remaining ≤ progress.remaining - 1 := by
  cases turn <;> simp [Progress.remaining]

theorem Progress.eq_done {progress : Progress} (none : progress.remaining = 0) :
    ∃ result, progress = .done result := by
  cases progress with
  | done result => exact ⟨result, rfl⟩
  | _ => cases none

/-- Three steps at one place take the lookup there to its end. -/
theorem interleave_settle (pending : Pending) (rest : List Pending) (state : State)
    (world : World) :
    let settled := settle outside setup pending.url pending.progress state world
    interleave outside setup [0, 0, 0] (pending :: rest) state world =
      ((⟨pending.url, .done settled.1.1⟩ :: rest, settled.1.2), settled.2) := by
  intro settled
  let first := advance outside setup pending.url pending.progress state world
  let second := advance outside setup pending.url first.1.1 first.1.2 first.2
  let third := advance outside setup pending.url second.1.1 second.1.2 second.2
  have done : third.1.1.remaining = 0 := by
    have one := (turn_advance outside setup pending.url pending.progress state world).remaining_le
    have two := (turn_advance outside setup pending.url first.1.1 first.1.2 first.2).remaining_le
    have three :=
      (turn_advance outside setup pending.url second.1.1 second.1.2 second.2).remaining_le
    have start : pending.progress.remaining ≤ 3 := by
      cases pending.progress <;> simp [Progress.remaining]
    change first.1.1.remaining ≤ _ at one
    change second.1.1.remaining ≤ _ at two
    change third.1.1.remaining ≤ _ at three
    omega
  have stepped : interleave outside setup [0, 0, 0] (pending :: rest) state world =
      ((⟨pending.url, third.1.1⟩ :: rest, third.1.2), third.2) := rfl
  have settled_eq : settled = ((third.1.1.result, third.1.2), third.2) :=
    settle_apply outside setup pending.url state world pending.progress
  rcases Progress.eq_done done with ⟨result, done⟩
  rw [stepped, settled_eq, done]
  rfl

/-- The answer of a batch that has ended: the error of its first lookup that has failed, or what all
its lookups have found. -/
inductive Concluded (batch : List Pending) : EngineAnswer → Prop
  | failed {error : EngineError} (failed : batch.findSome? Pending.failure? = some error) :
      Concluded batch (.error error)
  | finished {results : List (List Finding)}
      (finished : batch.map Pending.progress = results.map fun findings => .done (.ok findings)) :
      Concluded batch (.ok results)

/-- A batch that has not failed has taken a step for each of its links. -/
theorem Concluded.mem_order {outside : Outside (StateM World)} {setup : Setup} {order : List Nat}
    {urls : List String} {state : State} {world : World} {ended : List Pending}
    {results : List (List Finding)} {place : Nat} (concluded : Concluded ended (.ok results))
    (taken : (interleave outside setup order (urls.map fun url => { url }) state world).1.1 = ended)
    (isLink : place < urls.length) : place ∈ order := by
  by_contra absent
  have stays := interleave_getElem?_of_not_mem outside setup absent
    (urls.map fun url => ({ url } : Pending)) state world
  rw [taken] at stays
  cases concluded with | finished finished =>
  have done := congrArg (·[place]?) finished
  simp only [List.getElem?_map, stays, isLink, getElem?_pos, Option.map_some] at done
  cases result : results[place]? with
  | none => simp [result] at done
  | some findings => simp [result] at done

theorem Concluded.cons {ended : List Pending} {answer : EngineAnswer} (url : String)
    (findings : List Finding) (concluded : Concluded ended answer) :
    Concluded (⟨url, .done (.ok findings)⟩ :: ended) (answer.map (findings :: ·)) := by
  cases concluded with
  | failed failed => exact .failed failed
  | @finished results finished =>
      apply Concluded.finished
      rw [List.map_cons, List.map_cons, finished]

theorem settleAll_cons (pending : Pending) (rest : List Pending) (state : State) (world : World) :
    settleAll outside setup (pending :: rest) state world =
      let settled := settle outside setup pending.url pending.progress state world
      match settled.1.1 with
      | .error error => ((.error error, settled.1.2), settled.2)
      | .ok findings =>
        let others := settleAll outside setup rest settled.1.2 settled.2
        ((others.1.1.map (findings :: ·), others.1.2), others.2) := by
  simp only [settleAll, bind_apply]
  rcases settle outside setup pending.url pending.progress state world with
    ⟨⟨error | findings, after⟩, left⟩
  · rfl
  · rfl

theorem settleAll_eq {batch : List Pending} (state : State) (world : World)
    (unfailed : batch.findSome? Pending.failure? = none) :
    let settled := settleAll outside setup batch state world
    ∃ tail ended, interleave outside setup tail batch state world =
        ((ended, settled.1.2), settled.2) ∧ Concluded ended settled.1.1 := by
  induction batch generalizing state world with
  | nil => exact ⟨[], [], rfl, .finished rfl⟩
  | cons pending rest ih =>
      intro settled
      have taken := interleave_settle outside setup pending rest state world
      have settled_eq : settled = _ := settleAll_cons outside setup pending rest state world
      rw [settled_eq]
      generalize settle outside setup pending.url pending.progress state world = first at taken ⊢
      rcases first with ⟨⟨error | findings, after⟩, left⟩
      · exact ⟨[0, 0, 0], _, taken, .failed rfl⟩
      · have others : rest.findSome? Pending.failure? = none := by
          rw [List.findSome?_eq_none_iff] at unfailed ⊢
          intro other mem
          exact unfailed other (List.mem_cons_of_mem _ mem)
        rcases ih after left others with ⟨tail, ended, moved, concluded⟩
        let front : List Pending := [⟨pending.url, .done (.ok findings)⟩]
        refine ⟨[0, 0, 0] ++ tail.map (front.length + ·), front ++ ended, ?_, ?_⟩
        · rw [interleave_append, taken]
          change interleave outside setup (tail.map (front.length + ·)) (front ++ rest) after
            left = _
          rw [interleave_shift, moved]
        · exact concluded.cons pending.url findings

/-- A batch takes the steps of its order and some more. -/
theorem lookupTogether_eq (order : List Nat) (urls : List String) (state : State) (world : World) :
    let looked := lookupTogether outside setup order urls state world
    ∃ tail ended, interleave outside setup (order ++ tail) (urls.map fun url => { url }) state
        world = ((ended, looked.1.2), looked.2) ∧ Concluded ended looked.1.1 := by
  intro looked
  let moved := interleave outside setup order (urls.map fun url => { url }) state world
  cases failure : moved.1.1.findSome? Pending.failure? with
  | some error =>
      have looked_eq : looked = ((.error error, moved.1.2), moved.2) := by
        simp only [looked, lookupTogether, bind_apply, moved] at failure ⊢
        rw [failure]
        rfl
      refine ⟨[], moved.1.1, ?_, ?_⟩
      · rw [List.append_nil, looked_eq]
        rfl
      · rw [looked_eq]
        exact .failed failure
  | none =>
      have looked_eq : looked = settleAll outside setup moved.1.1 moved.1.2 moved.2 := by
        simp only [looked, lookupTogether, bind_apply, moved] at failure ⊢
        rw [failure]
      rcases settleAll_eq outside setup moved.1.2 moved.2 failure with
        ⟨tail, ended, taken, concluded⟩
      refine ⟨tail, ended, ?_, ?_⟩
      · rw [interleave_append, looked_eq]
        exact taken
      · rw [looked_eq]
        exact concluded

end LinkGuard.Remote
