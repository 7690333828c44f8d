import LinkGuard.Proofs.Cache.Table
import LinkGuard.Remote.Engine

/-!
# What a whole lookup does

A lookup takes three steps, but there are only two ways through them. Either the cache has a fresh
verdict, and the lookup ends there, or the API is asked, and all that follows is a function of its
reply, the time when it is there and the state. Both ways are stated once, over any network that
is a function of its own state, so that nothing else has to follow the steps.
-/

namespace LinkGuard.Remote

section Running

variable {World α β : Type}

theorem bind_apply (action : StateT State (StateM World) α)
    (next : α → StateT State (StateM World) β) (state : State) (world : World) :
    (action >>= next) state world =
      let done := action state world
      next done.1.1 done.1.2 done.2 :=
  rfl

theorem pure_apply (value : α) (state : State) (world : World) :
    (pure value : StateT State (StateM World) α) state world = ((value, state), world) :=
  rfl

theorem run'_apply (action : StateT State (StateM World) α) (state : State) (world : World) :
    action.run' state world = ((action state world).1.1, (action state world).2) :=
  rfl

end Running

namespace State

variable {setup : Setup} {url : String} {reply : Reply} {now : Instant} {state : State}

theorem consulted_missing {found : Except Cache.Error (Option Verdict)}
    (missing : ∀ verdict, found ≠ .ok (some verdict)) :
    state.consulted url found = (.asking, { state with byApi := state.byApi + 1 }) := by
  cases found with
  | error error => rfl
  | ok found =>
      cases found with
      | none => rfl
      | some verdict => exact absurd rfl (missing verdict)

/-- Whether a verdict has been stored makes no difference but to the cache. -/
theorem kept_eq (verdict : Verdict) (stored : Except Cache.Error Cache.File) (state : State) :
    state.kept verdict stored =
      (.done (.ok (Verdict.findings verdict.threats verdict.url)),
        { state with cache := stored.toOption.getD state.cache }) := by
  cases stored <;> rfl

/-- The first step of a lookup, from what the cache of the state answers. -/
def consult (url : String) (now : Instant) (state : State) : Progress × State :=
  state.consulted url (state.cache.find url now now)

/-- The last step of a lookup, which stores its verdict in the cache of the state. -/
def keep (verdict : Verdict) (state : State) : Progress × State :=
  state.kept verdict (state.cache.put verdict)

/-- All that a lookup over a cache with faults does with the reply of the API. -/
def concludeOver (faults : Faults) (setup : Setup) (url : String) (reply : Reply) (now : Instant)
    (state : State) : Except EngineError (List Finding) × State :=
  match state.receive setup url reply now with
  | (.storing verdict, state) =>
    let (progress, state) := state.kept verdict (faults.put verdict state.cache)
    (progress.result, state)
  | (progress, state) => (progress.result, state)

/-- All that a lookup does with the reply of the API. -/
def conclude (setup : Setup) (url : String) (reply : Reply) (now : Instant) (state : State) :
    Except EngineError (List Finding) × State :=
  match state.receive setup url reply now with
  | (.storing verdict, state) => ((state.keep verdict).1.result, (state.keep verdict).2)
  | (progress, state) => (progress.result, state)

/-- The cache once an answer has been received: its verdict is stored if it is still fresh and
storing works. -/
def rememberOver (faults : Faults) (setup : Setup) (url : String) (answer : Answer) (now : Instant)
    (cache : Cache.File) : Cache.File :=
  let verdict : Verdict := ⟨url, answer.threats, (setup.expiry answer now).getD now⟩
  if verdict.isFresh now then (faults.put verdict cache).toOption.getD cache else cache

/-- The same when the cache has no faults. -/
def remember (setup : Setup) (url : String) (answer : Answer) (now : Instant)
    (cache : Cache.File) : Cache.File :=
  let verdict : Verdict := ⟨url, answer.threats, (setup.expiry answer now).getD now⟩
  if verdict.isFresh now then (cache.put verdict).toOption.getD cache else cache

theorem consult_found {verdict : Verdict}
    (found : state.cache.find url now now = .ok (some verdict)) :
    state.consult url now =
      (.done (.ok (Verdict.findings verdict.threats url)),
        { state with byCache := state.byCache + 1 }) := by
  rw [consult, found]
  rfl

/-- A reply either ends the lookup or gives a verdict to store, which has the threats of the
answer. The cache stays as it is. -/
theorem receive_cases (setup : Setup) (url : String) (reply : Reply) (now : Instant)
    (state : State) :
    (∃ result after, state.receive setup url reply now = (.done result, after) ∧
      after.cache = state.cache) ∨
    ∃ verdict after answer, state.receive setup url reply now = (.storing verdict, after) ∧
      after.cache = state.cache ∧ setup.client.interpret url reply = .ok answer ∧
      verdict.url = url ∧ verdict.threats = answer.threats := by
  rw [receive]
  split
  case h_1 error => exact .inl ⟨_, _, rfl, rfl⟩
  case h_2 answer interpreted =>
    dsimp only
    split
    · exact .inr ⟨_, _, answer, rfl, rfl, interpreted, rfl, rfl⟩
    · exact .inl ⟨_, _, rfl, rfl⟩

/-- A verdict that is stored on an answer has the threats and the expiry of the answer. -/
theorem receive_storing {after : State} {verdict : Verdict} {answer : Answer}
    (interpreted : setup.client.interpret url reply = .ok answer)
    (received : state.receive setup url reply now = (.storing verdict, after)) :
    ∃ expiry, setup.expiry answer now = some expiry ∧ verdict = ⟨url, answer.threats, expiry⟩ := by
  simp only [receive, interpreted] at received
  split at received
  case isTrue fresh =>
    cases received
    cases expires : setup.expiry answer now with
    | none =>
        rw [expires] at fresh
        simp [Verdict.isFresh, Instant.before] at fresh
    | some expiry => exact ⟨expiry, rfl, rfl⟩
  case isFalse => cases received

/-- What a lookup receives does not depend on the state. -/
theorem receive_congr (setup : Setup) (url : String) (reply : Reply) (now : Instant)
    (state other : State) :
    (state.receive setup url reply now).1 = (other.receive setup url reply now).1 := by
  rw [receive, receive]
  split
  case h_1 error => rfl
  case h_2 answer =>
    dsimp only
    split
    · rfl
    · rfl

theorem concludeOver_error (faults : Faults) {error : ClientError}
    (failed : setup.client.interpret url reply = .error error) :
    state.concludeOver faults setup url reply now =
      (.error (.unavailable error.message),
        { state with
          failed := state.failed + 1, lastError := some (.unavailable error.message) }) := by
  simp only [concludeOver, receive, failed, Progress.result]

theorem conclude_error {error : ClientError}
    (failed : setup.client.interpret url reply = .error error) :
    state.conclude setup url reply now =
      (.error (.unavailable error.message),
        { state with
          failed := state.failed + 1, lastError := some (.unavailable error.message) }) :=
  concludeOver_error {} failed

/-- An answer of the API is the result, whether or not it can be stored. -/
theorem concludeOver_answer (faults : Faults) {answer : Answer}
    (answered : setup.client.interpret url reply = .ok answer) :
    state.concludeOver faults setup url reply now =
      (.ok (Verdict.findings answer.threats url),
        { state with
          lastError := none,
          cache := rememberOver faults setup url answer now state.cache }) := by
  by_cases fresh :
      (⟨url, answer.threats, (setup.expiry answer now).getD now⟩ : Verdict).isFresh now = true
  · simp only [concludeOver, receive, answered, rememberOver, fresh, if_true, kept_eq,
      Progress.result]
  · simp only [concludeOver, receive, answered, rememberOver, fresh, Bool.false_eq_true, if_false,
      Progress.result]

theorem conclude_answer {answer : Answer}
    (answered : setup.client.interpret url reply = .ok answer) :
    state.conclude setup url reply now =
      (.ok (Verdict.findings answer.threats url),
        { state with
          lastError := none, cache := remember setup url answer now state.cache }) :=
  concludeOver_answer {} answered

end State

section Steps

variable {World : Type} (outside : Outside (StateM World)) (setup : Setup) (url : String)
  (state : State) (world : World)

theorem advance_waiting :
    advance outside setup url .waiting state world =
      (state.consult url (outside.now world).1, (outside.now world).2) :=
  rfl

/-- Asking fetches the address of the link and takes the reply at the time when it is there. -/
theorem advance_asking :
    advance outside setup url .asking state world =
      let fetched := outside.fetch (setup.client.requestUrl url) world
      let read := outside.now fetched.2
      (state.receive setup url fetched.1 read.1, read.2) :=
  rfl

theorem advance_storing (verdict : Verdict) :
    advance outside setup url (.storing verdict) state world = (state.keep verdict, world) :=
  rfl

theorem advance_done (result : Except EngineError (List Finding)) :
    advance outside setup url (.done result) state world = ((.done result, state), world) :=
  rfl

theorem settle_apply (progress : Progress) :
    settle outside setup url progress state world =
      let first := advance outside setup url progress state world
      let second := advance outside setup url first.1.1 first.1.2 first.2
      let third := advance outside setup url second.1.1 second.1.2 second.2
      ((third.1.1.result, third.1.2), third.2) :=
  rfl

end Steps

section Ways

variable {World : Type} {outside : Outside (StateM World)} {setup : Setup} {url : String}
  {state : State} {world : World}

/-- With a fresh verdict from the cache a lookup reads the clock and nothing else. -/
theorem lookupOver_found {faults : Faults} {verdict : Verdict}
    (found : faults.find url (outside.now world).1 state.cache = .ok (some verdict)) :
    lookupOver faults outside setup url state world =
      ((.ok (Verdict.findings verdict.threats url), { state with byCache := state.byCache + 1 }),
        (outside.now world).2) := by
  have consulted : advanceOver faults outside setup url .waiting state world =
      (state.consulted url (faults.find url (outside.now world).1 state.cache),
        (outside.now world).2) := rfl
  rw [found] at consulted
  simp only [lookupOver, settleBy, bind_apply, consulted]
  rfl

/-- Without a fresh verdict a lookup asks the API once and concludes from its reply. -/
theorem lookupOver_missing {faults : Faults}
    (missing : ∀ verdict, faults.find url (outside.now world).1 state.cache ≠
      .ok (some verdict)) :
    lookupOver faults outside setup url state world =
      let fetched := outside.fetch (setup.client.requestUrl url) (outside.now world).2
      let read := outside.now fetched.2
      (State.concludeOver faults setup url fetched.1 read.1 { state with byApi := state.byApi + 1 },
        read.2) := by
  have consulted : advanceOver faults outside setup url .waiting state world =
      (state.consulted url (faults.find url (outside.now world).1 state.cache),
        (outside.now world).2) := rfl
  rw [State.consulted_missing missing] at consulted
  have asked (state : State) (world : World) :
      advanceOver faults outside setup url .asking state world =
        let fetched := outside.fetch (setup.client.requestUrl url) world
        let read := outside.now fetched.2
        (state.receive setup url fetched.1 read.1, read.2) := rfl
  simp only [lookupOver, settleBy, bind_apply, consulted, asked]
  generalize outside.fetch (setup.client.requestUrl url) (outside.now world).2 = fetched
  generalize outside.now fetched.2 = read
  rcases State.receive_cases setup url fetched.1 read.1 { state with byApi := state.byApi + 1 } with
    ⟨result, after, received, _⟩ | ⟨verdict, after, _, received, _⟩
  · simp only [State.concludeOver, received]
    rfl
  · simp only [State.concludeOver, received]
    rfl

theorem lookupOne_found {verdict : Verdict}
    (found : state.cache.find url (outside.now world).1 (outside.now world).1 =
      .ok (some verdict)) :
    lookupOne outside setup url state world =
      ((.ok (Verdict.findings verdict.threats url), { state with byCache := state.byCache + 1 }),
        (outside.now world).2) :=
  lookupOver_found found

theorem lookupOne_missing
    (missing : ∀ verdict, state.cache.find url (outside.now world).1 (outside.now world).1 ≠
      .ok (some verdict)) :
    lookupOne outside setup url state world =
      let fetched := outside.fetch (setup.client.requestUrl url) (outside.now world).2
      let read := outside.now fetched.2
      (State.conclude setup url fetched.1 read.1 { state with byApi := state.byApi + 1 },
        read.2) :=
  lookupOver_missing missing

end Ways

section Rows

variable {World : Type} (outside : Outside (StateM World)) (setup : Setup)

theorem lookupAll_singleton (url : String) (state : State) (world : World) :
    lookupAll outside setup [url] state world =
      let looked := lookupOne outside setup url state world
      ((looked.1.1.map ([·]), looked.1.2), looked.2) := by
  simp only [lookupAll, bind_apply]
  rcases lookupOne outside setup url state world with ⟨⟨error | findings, after⟩, left⟩
  · rfl
  · rfl

end Rows

end LinkGuard.Remote
