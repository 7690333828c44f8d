import LinkGuard.Proofs.Cache.Table
import LinkGuard.Proofs.Remote.Answers
import LinkGuard.Proofs.Remote.Steps

/-!
# The cache over whole runs

A run is a sequence of lookups, purges and reports that begins with an empty cache. Beside the state
of the engine we keep what it cannot forget on its own: the answers that the API has given so far.
An answer *holds* until the verdict made from it has expired in whole milliseconds.

The invariant ties the two together. From now on, the table answers for a link exactly as long as
the last answer about this link holds, and with the threats of that answer. It speaks about the
future only, since rows that have expired may lie around until something removes them, and it does
not say which rows there are. All that is needed of the clock is that its whole milliseconds do not
go back.
-/

namespace LinkGuard.Remote

/-- What surrounds one lookup: the time when it begins, the reply of the API, the time when that is
there, and the addresses that have been fetched. -/
structure Surroundings where
  asked : Instant
  reply : Reply
  answered : Instant
  fetched : List Url := []

/-- The clock and the network that surround one lookup. -/
def Outside.scripted : Outside (StateM Surroundings) where
  now surroundings :=
    (if surroundings.fetched = [] then surroundings.asked else surroundings.answered, surroundings)
  fetch url surroundings :=
    (surroundings.reply, { surroundings with fetched := surroundings.fetched ++ [url] })

/-- What a lookup comes to: its answer and the addresses fetched for it. -/
structure Looked where
  answer : EngineAnswer
  fetched : List Url

/-- Looks up one link in surroundings in which nothing has been fetched. -/
def look (setup : Setup) (url : String) (asked : Instant) (reply : Reply) (answered : Instant)
    (state : State) : Looked × State :=
  let looked := (engine .scripted setup).lookup [url] state { asked, reply, answered }
  (⟨looked.1.1, looked.2.fetched⟩, looked.1.2)

/-- What happens to an engine. -/
inductive Event where
  | lookup (url : String) (asked : Instant) (reply : Reply) (answered : Instant)
  | purge (now : Instant)
  | report (now : Instant)

namespace Event

/-- The times that the clock shows. -/
def readings : Event → List Instant
  | lookup _ asked _ answered => [asked, answered]
  | purge now | report now => [now]

/-- The last time that the clock shows. -/
def finished : Event → Instant
  | lookup _ _ _ answered => answered
  | purge now | report now => now

/-- The event is a lookup. -/
def isLookup : Event → Bool
  | lookup .. => true
  | purge _ | report _ => false

end Event

/-- An answer of the API about a link, and the time when it was there. -/
structure Received where
  url : String
  answer : Answer
  time : Instant
  deriving DecidableEq

/-- How far a run has come: the state of the engine and the answers received, the last one first. -/
structure Run where
  state : State := { cache := { rows := some [] } }
  received : List Received := []

namespace Run

/-- One event. An answer is received if the API was asked and its reply is one. -/
def step (setup : Setup) (run : Run) : Event → Run
  | .lookup url asked reply answered =>
    let (looked, state) := look setup url asked reply answered run.state
    match looked.fetched, setup.client.interpret url reply with
    | _ :: _, .ok answer => ⟨state, ⟨url, answer, answered⟩ :: run.received⟩
    | _, _ => ⟨state, run.received⟩
  | .purge now => ⟨(run.state.purge now).2, run.received⟩
  | .report _ => run

/-- The run of some events. -/
def after (setup : Setup) (events : List Event) : Run :=
  events.foldl (step setup) {}

/-- The answer about the link that was received last. -/
def last? (run : Run) (url : String) : Option Received :=
  run.received.find? (·.url = url)

end Run

/-- The answer has an expiry, and this is still ahead in whole milliseconds. -/
def Received.Holds (setup : Setup) (now : Instant) (received : Received) : Prop :=
  ∃ expiry, setup.expiry received.answer received.time = some expiry ∧
    now.milliseconds < expiry.milliseconds

/-- The whole milliseconds of the clock do not go back. -/
def Ordered (readings : List Instant) : Prop :=
  readings.Pairwise fun earlier later => earlier.milliseconds ≤ later.milliseconds

section Lookups

variable {setup : Setup} {url : String} {asked answered : Instant} {reply : Reply} {state : State}

theorem look_found {verdict : Verdict}
    (found : state.cache.find url asked asked = .ok (some verdict)) :
    look setup url asked reply answered state =
      (⟨.ok [Verdict.findings verdict.threats url], []⟩,
        { state with byCache := state.byCache + 1 }) := by
  have looked : lookupOne .scripted setup url state { asked, reply, answered } = _ :=
    lookupOne_found found
  simp only [look, engine, lookupAll_singleton, looked]
  rfl

/-- What a lookup answers when the API has replied. -/
def Client.answerOf (client : Client) (url : String) (reply : Reply) : EngineAnswer :=
  match client.interpret url reply with
  | .ok answer => .ok [Verdict.findings answer.threats url]
  | .error error => .error (.unavailable error.message)

theorem look_missing (missing : ∀ verdict, state.cache.find url asked asked ≠ .ok (some verdict)) :
    look setup url asked reply answered state =
      (⟨setup.client.answerOf url reply, [setup.client.requestUrl url]⟩,
        (State.conclude setup url reply answered { state with byApi := state.byApi + 1 }).2) := by
  have looked : lookupOne .scripted setup url state { asked, reply, answered } = _ :=
    lookupOne_missing missing
  have answer_eq : (State.conclude setup url reply answered
      { state with byApi := state.byApi + 1 }).1.map ([·]) =
        setup.client.answerOf url reply := by
    rw [Client.answerOf]
    cases interpreted : setup.client.interpret url reply with
    | ok answer =>
        rw [State.conclude_answer interpreted]
        rfl
    | error error =>
        rw [State.conclude_error interpreted]
        rfl
  simp only [look, engine, lookupAll_singleton, looked]
  refine Prod.ext ?_ rfl
  simp only [Outside.scripted, List.nil_append, List.cons_ne_nil, if_false]
  rw [answer_eq]

end Lookups

/-! ## The invariant -/

/-- The verdict that an answer stands for, as long as it holds. -/
def Received.held? (setup : Setup) (now : Instant) (received : Received) : Option Verdict :=
  (setup.expiry received.answer received.time).bind fun expiry =>
    if now.milliseconds < expiry.milliseconds then
      some ⟨received.url, received.answer.threats, expiry⟩
    else none

namespace Run

/-- The verdict about a link that may be served. -/
def held? (setup : Setup) (run : Run) (url : String) (now : Instant) : Option Verdict :=
  (run.last? url).bind (Received.held? setup now)

theorem held?_of_holds {setup : Setup} {run : Run} {url : String} {now : Instant}
    {received : Received} (last : run.last? url = some received)
    (holds : received.Holds setup now) :
    ∃ expiry, run.held? setup url now = some ⟨received.url, received.answer.threats, expiry⟩ := by
  rcases holds with ⟨expiry, expires, ahead⟩
  refine ⟨expiry, ?_⟩
  rw [held?, last, Option.bind_some, Received.held?, expires, Option.bind_some, if_pos ahead]

theorem held?_eq_none {setup : Setup} {run : Run} {url : String} {now : Instant}
    (lapsed : ¬∃ received, run.last? url = some received ∧ received.Holds setup now) :
    run.held? setup url now = none := by
  cases last : run.last? url with
  | none => rw [held?, last, Option.bind_none]
  | some received =>
      rw [held?, last, Option.bind_some, Received.held?]
      cases expires : setup.expiry received.answer received.time with
      | none => rfl
      | some expiry =>
          rw [Option.bind_some]
          exact if_neg fun ahead => lapsed ⟨received, last, expiry, expires, ahead⟩

/-- From some time on, counted in whole milliseconds, the table answers for each link exactly what
the last answer about it allows, and this can be read back. -/
structure Sound (setup : Setup) (run : Run) (since : Int) : Prop where
  table : ∃ rows, run.state.cache.rows = some rows ∧
    ∀ url now, since ≤ now.milliseconds →
      rows.find? (Cache.Row.answers url now) = (run.held? setup url now).map Cache.Row.ofVerdict
  storable : ∀ received ∈ run.received, ∀ expiry,
    setup.expiry received.answer received.time = some expiry →
      expiry.milliseconds ≤ Cache.greatestStored

variable {setup : Setup} {run : Run} {url : String} {asked answered now : Instant} {reply : Reply}
  {since later : Int}

theorem Sound.start (setup : Setup) (since : Int) : ({} : Run).Sound setup since where
  table := ⟨[], rfl, fun _ _ _ => rfl⟩
  storable received mem := by cases mem

theorem Sound.weaken (sound : run.Sound setup since) (order : since ≤ later) :
    run.Sound setup later where
  table := by
    rcases sound.table with ⟨rows, table, answers⟩
    exact ⟨rows, table, fun url now here => answers url now (Int.le_trans order here)⟩
  storable := sound.storable

/-- The table gives the threats of the last answer as long as it holds. -/
theorem Sound.find_held (sound : run.Sound setup since) (here : since ≤ asked.milliseconds)
    {verdict : Verdict} (held : run.held? setup url asked = some verdict) :
    ∃ expiry, run.state.cache.find url asked asked =
      .ok (some ⟨verdict.url, verdict.threats, expiry⟩) := by
  rcases sound.table with ⟨rows, table, answers⟩
  have storable : verdict.expiry.milliseconds ≤ Cache.greatestStored := by
    rcases Option.bind_eq_some_iff.mp held with ⟨received, last, still⟩
    rcases Option.bind_eq_some_iff.mp still with ⟨expiry, expires, chosen⟩
    have bound := sound.storable received (List.mem_of_find?_eq_some last) expiry expires
    split at chosen
    · cases chosen
      exact bound
    · cases chosen
  refine ⟨(Instant.ofMilliseconds? verdict.expiry.milliseconds).getD asked, ?_⟩
  rw [Cache.File.find_eq table, answers url asked here, held]
  simp only [Option.map_some, Cache.Row.verdict_ofVerdict storable]
  rfl

theorem Sound.find_lapsed (sound : run.Sound setup since) (here : since ≤ asked.milliseconds)
    (lapsed : run.held? setup url asked = none) :
    run.state.cache.find url asked asked = .ok none := by
  rcases sound.table with ⟨rows, table, answers⟩
  rw [Cache.File.find_eq table, answers url asked here, lapsed]
  rfl

theorem Sound.look_held (sound : run.Sound setup since) (here : since ≤ asked.milliseconds)
    {verdict : Verdict} (held : run.held? setup url asked = some verdict) :
    look setup url asked reply answered run.state =
      (⟨.ok [Verdict.findings verdict.threats url], []⟩,
        { run.state with byCache := run.state.byCache + 1 }) := by
  rcases sound.find_held here held with ⟨expiry, found⟩
  rw [look_found found]

/-- A lookup asks the API once when nothing is held. -/
theorem Sound.look_lapsed (sound : run.Sound setup since) (here : since ≤ asked.milliseconds)
    (lapsed : run.held? setup url asked = none) :
    look setup url asked reply answered run.state =
      (⟨setup.client.answerOf url reply, [setup.client.requestUrl url]⟩,
        (State.conclude setup url reply answered
          { run.state with byApi := run.state.byApi + 1 }).2) := by
  apply look_missing
  intro verdict found
  have same := (sound.find_lapsed here lapsed).symm.trans found
  cases same

theorem Sound.purge (sound : run.Sound setup since) (here : since ≤ now.milliseconds) :
    (run.step setup (.purge now)).Sound setup now.milliseconds where
  table := by
    rcases sound.table with ⟨rows, table, answers⟩
    have purged : run.state.cache.purge now =
        .ok (rows.length - (rows.filter (Cache.Row.isFresh now)).length,
          { run.state.cache with rows := some (rows.filter (Cache.Row.isFresh now)) }) := by
      rw [Cache.File.purge, Cache.File.table, table]
      rfl
    refine ⟨rows.filter (Cache.Row.isFresh now), ?_, fun url later order => ?_⟩
    · simp only [step, State.purge, purged]
    · rw [Cache.find?_filter_isFresh order]
      exact answers url later (Int.le_trans here order)
  storable := sound.storable

theorem held?_cons_same (state : State) (received : Received) (rest : List Received) :
    held? setup ⟨state, received :: rest⟩ received.url now = received.held? setup now := by
  simp only [held?, last?, List.find?_cons, decide_true, Option.bind_some]

theorem held?_cons_other {received : Received} (other : received.url ≠ url) (state : State) :
    held? setup ⟨state, received :: run.received⟩ url now = run.held? setup url now := by
  simp only [held?, last?, List.find?_cons, other, decide_false]

/-- What an answer makes of the table: the verdict takes its place if it is fresh on arrival, and
nothing changes otherwise. -/
theorem rows_remember {rows : List Cache.Row} {cache : Cache.File} {answer : Answer}
    (table : cache.rows = some rows) :
    (∃ expiry, setup.expiry answer answered = some expiry ∧
      (State.remember setup url answer answered cache).rows =
        some (Cache.replaceRow (.ofVerdict ⟨url, answer.threats, expiry⟩) rows)) ∨
    ((∀ expiry, setup.expiry answer answered = some expiry → ¬answered.before expiry = true) ∧
      (State.remember setup url answer answered cache).rows = some rows) := by
  rw [State.remember]
  cases expires : setup.expiry answer answered with
  | none =>
      have stale : ¬Verdict.isFresh ⟨url, answer.threats, answered⟩ answered = true := by
        simp [Verdict.isFresh, Instant.before]
      refine .inr ⟨fun expiry other => (by cases other), ?_⟩
      simp only [Option.getD_none, if_neg stale, table]
  | some expiry =>
      simp only [Option.getD_some]
      by_cases fresh : Verdict.isFresh ⟨url, answer.threats, expiry⟩ answered = true
      · refine .inl ⟨expiry, rfl, ?_⟩
        rw [if_pos fresh, Cache.File.put_eq table]
        rfl
      · refine .inr ⟨?_, ?_⟩
        · rintro other ⟨⟩
          exact fresh
        · rw [if_neg fresh, table]

/-- An answer that has expired on arrival is not held. -/
theorem held?_of_stale (received : Received)
    (stale : ∀ expiry, setup.expiry received.answer received.time = some expiry →
      ¬received.time.before expiry = true)
    (late : received.time.milliseconds ≤ now.milliseconds) : received.held? setup now = none := by
  rw [Received.held?]
  cases expires : setup.expiry received.answer received.time with
  | none => rfl
  | some expiry =>
      have expired := Setup.expiry_le_of_not_fresh expires (stale expiry expires)
      rw [Option.bind_some]
      apply if_neg
      omega

section Receiving

variable {rows : List Cache.Row} {expiry : Instant} {link : String} (received : Received)

/-- A table with the verdict of the last answer in its place follows the history. -/
theorem find?_stored (expires : setup.expiry received.answer received.time = some expiry)
    (before : rows.find? (Cache.Row.answers link now) =
      (run.held? setup link now).map Cache.Row.ofVerdict) (state : State) :
    (Cache.replaceRow (.ofVerdict ⟨received.url, received.answer.threats, expiry⟩) rows).find?
      (Cache.Row.answers link now) =
        (held? setup ⟨state, received :: run.received⟩ link now).map Cache.Row.ofVerdict := by
  by_cases isLink : received.url = link
  · subst isLink
    have replaced : (Cache.replaceRow
        (.ofVerdict ⟨received.url, received.answer.threats, expiry⟩) rows).find?
          (Cache.Row.answers received.url now) = _ := Cache.find?_replaceRow_same
    rw [replaced, held?_cons_same, Received.held?, expires, Option.bind_some]
    by_cases ahead : now.milliseconds < expiry.milliseconds
    · rw [if_pos (Cache.Row.isFresh_iff.mpr ahead), if_pos ahead]
      rfl
    · rw [if_neg (fun fresh => ahead (Cache.Row.isFresh_iff.mp fresh)), if_neg ahead]
      rfl
  · rw [Cache.find?_replaceRow_other isLink, held?_cons_other isLink, before]

/-- A table that has no row for the last answer follows the history as long as none is held. -/
theorem find?_unstored (missing : rows.find? (Cache.Row.answers received.url now) = none)
    (lapsed : received.held? setup now = none)
    (before : rows.find? (Cache.Row.answers link now) =
      (run.held? setup link now).map Cache.Row.ofVerdict) (state : State) :
    rows.find? (Cache.Row.answers link now) =
      (held? setup ⟨state, received :: run.received⟩ link now).map Cache.Row.ofVerdict := by
  by_cases isLink : received.url = link
  · subst isLink
    rw [missing, held?_cons_same, lapsed]
    rfl
  · rw [held?_cons_other isLink, before]

end Receiving

/-- An answer that is received replaces the last one about its link, in the table as in the
history. -/
theorem Sound.receive {answer : Answer} {state : State} (sound : run.Sound setup since)
    (here : since ≤ asked.milliseconds) (order : asked.milliseconds ≤ answered.milliseconds)
    (lapsed : run.held? setup url asked = none)
    (interpreted : setup.client.interpret url reply = .ok answer)
    (cache_eq : state.cache = State.remember setup url answer answered run.state.cache) :
    Sound setup ⟨state, ⟨url, answer, answered⟩ :: run.received⟩ answered.milliseconds where
  table := by
    rcases sound.table with ⟨rows, table, answers⟩
    have missing : rows.find? (Cache.Row.answers url asked) = none := by
      rw [answers url asked here, lapsed]
      rfl
    simp only [cache_eq]
    rcases rows_remember table with ⟨expiry, expires, stored⟩ | ⟨stale, kept⟩
    · refine ⟨_, stored, fun link later late => ?_⟩
      have before := answers link later (by omega)
      exact find?_stored ⟨url, answer, answered⟩ expires before state
    · refine ⟨rows, kept, fun link later late => ?_⟩
      have before := answers link later (by omega)
      have missingLater := Cache.find?_eq_none_of_le (Int.le_trans order late) missing
      have lapsedLater := held?_of_stale ⟨url, answer, answered⟩ stale late
      exact find?_unstored _ missingLater lapsedLater before state
  storable := by
    intro received mem expiry expires
    rcases List.mem_cons.mp mem with rfl | mem
    · exact Setup.expiry_le_greatestStored interpreted expires
    · exact sound.storable received mem expiry expires

/-- The answers received after a lookup: one more if nothing was held and the reply is an answer. -/
theorem Sound.received_lookup (sound : run.Sound setup since) (here : since ≤ asked.milliseconds) :
    (run.step setup (.lookup url asked reply answered)).received =
      match run.held? setup url asked, setup.client.interpret url reply with
      | none, .ok answer => ⟨url, answer, answered⟩ :: run.received
      | _, _ => run.received := by
  cases held : run.held? setup url asked with
  | some verdict => simp only [step, sound.look_held here held]
  | none =>
      simp only [step, sound.look_lapsed here held]
      cases setup.client.interpret url reply <;> rfl

theorem Sound.lookup (sound : run.Sound setup since) (here : since ≤ asked.milliseconds)
    (order : asked.milliseconds ≤ answered.milliseconds) :
    (run.step setup (.lookup url asked reply answered)).Sound setup answered.milliseconds := by
  have kept (state : State) (cache_eq : state.cache = run.state.cache) :
      Sound setup ⟨state, run.received⟩ answered.milliseconds := by
    have later := sound.weaken (Int.le_trans here order)
    rcases later.table with ⟨rows, table, answers⟩
    exact ⟨⟨rows, cache_eq ▸ table, answers⟩, later.storable⟩
  cases held : run.held? setup url asked with
  | some verdict =>
      simp only [step, sound.look_held here held]
      exact kept _ rfl
  | none =>
      simp only [step, sound.look_lapsed here held]
      cases interpreted : setup.client.interpret url reply with
      | error error =>
          apply kept
          rw [State.conclude_error interpreted]
      | ok answer =>
          apply sound.receive here order held interpreted
          rw [State.conclude_answer interpreted]

theorem Sound.step {event : Event} {rest : List Int} (sound : run.Sound setup since)
    (ordered : (since :: (event.readings.map Instant.milliseconds ++ rest)).Pairwise (· ≤ ·)) :
    (run.step setup event).Sound setup event.finished.milliseconds ∧
      (event.finished.milliseconds :: rest).Pairwise (· ≤ ·) := by
  cases event with
  | lookup url asked reply answered =>
      rcases List.pairwise_cons.mp ordered with ⟨least, ordered⟩
      rcases List.pairwise_cons.mp ordered with ⟨next, ordered⟩
      exact ⟨sound.lookup (least _ List.mem_cons_self) (next _ List.mem_cons_self), ordered⟩
  | purge now =>
      rcases List.pairwise_cons.mp ordered with ⟨least, ordered⟩
      exact ⟨sound.purge (least _ List.mem_cons_self), ordered⟩
  | report now =>
      rcases List.pairwise_cons.mp ordered with ⟨least, ordered⟩
      exact ⟨sound.weaken (least _ List.mem_cons_self), ordered⟩

/-- Runs with the same answers answer a lookup alike and receive the same from it. -/
theorem Sound.look_congr {other : Run} (sound : run.Sound setup since)
    (otherSound : other.Sound setup since) (here : since ≤ asked.milliseconds)
    (same : run.received = other.received) :
    (look setup url asked reply answered run.state).1 =
      (look setup url asked reply answered other.state).1 := by
  have sameHeld : run.held? setup url asked = other.held? setup url asked := by
    simp only [held?, last?, same]
  cases held : run.held? setup url asked with
  | some verdict =>
      rw [sound.look_held here held, otherSound.look_held here (sameHeld ▸ held)]
  | none =>
      rw [sound.look_lapsed here held, otherSound.look_lapsed here (sameHeld ▸ held)]

/-- Events that happen in order keep the invariant, and of two runs with the same answers, one of
which leaves purges and reports out, both receive the same. -/
theorem Sound.foldl {other : Run} {events : List Event} (sound : run.Sound setup since)
    (otherSound : other.Sound setup since) (same : run.received = other.received)
    (ordered : (since :: ((events.flatMap Event.readings).map Instant.milliseconds ++
      [asked.milliseconds])).Pairwise (· ≤ ·)) :
    let run := events.foldl (Run.step setup) run
    let other := (events.filter Event.isLookup).foldl (Run.step setup) other
    run.Sound setup asked.milliseconds ∧ other.Sound setup asked.milliseconds ∧
      run.received = other.received := by
  induction events generalizing run other since with
  | nil =>
      have order := (List.pairwise_cons.mp ordered).1 _ List.mem_cons_self
      exact ⟨sound.weaken order, otherSound.weaken order, same⟩
  | cons event events ih =>
      rw [List.flatMap_cons, List.map_append, List.append_assoc] at ordered
      rcases sound.step ordered with ⟨kept, rest⟩
      cases event with
      | lookup url asked reply answered =>
          have here := (List.pairwise_cons.mp ordered).1 asked.milliseconds List.mem_cons_self
          have sameHeld : run.held? setup url asked = other.held? setup url asked := by
            simp only [held?, last?, same]
          refine ih kept (otherSound.step ordered).1 ?_ rest
          rw [sound.received_lookup here, otherSound.received_lookup here, sameHeld, same]
      | purge now =>
          have order := (List.pairwise_cons.mp ordered).1 now.milliseconds List.mem_cons_self
          exact ih kept (otherSound.weaken order) same rest
      | report now =>
          have order := (List.pairwise_cons.mp ordered).1 now.milliseconds List.mem_cons_self
          exact ih kept (otherSound.weaken order) same rest

/-- The invariant holds of every run of events in order, and leaving purges and reports out changes
no answer that is received. -/
theorem Sound.after (setup : Setup) {events : List Event}
    (ordered : Ordered (events.flatMap Event.readings ++ [asked])) :
    (after setup events).Sound setup asked.milliseconds ∧
      (after setup (events.filter Event.isLookup)).Sound setup asked.milliseconds ∧
      (after setup events).received = (after setup (events.filter Event.isLookup)).received := by
  have pairwise : ((events.flatMap Event.readings).map Instant.milliseconds ++
      [asked.milliseconds]).Pairwise (· ≤ ·) := by
    have mapped := List.pairwise_map.mpr ordered
    rwa [List.map_append] at mapped
  have since : ∃ since, (since :: ((events.flatMap Event.readings).map Instant.milliseconds ++
      [asked.milliseconds])).Pairwise (· ≤ ·) := by
    cases times : (events.flatMap Event.readings).map Instant.milliseconds ++
        [asked.milliseconds] with
    | nil => exact ⟨0, List.pairwise_singleton _ _⟩
    | cons first rest =>
        rw [times] at pairwise
        refine ⟨first, List.pairwise_cons.mpr ⟨fun time mem => ?_, pairwise⟩⟩
        rcases List.mem_cons.mp mem with rfl | mem
        · exact Int.le_refl _
        · exact (List.pairwise_cons.mp pairwise).1 time mem
  rcases since with ⟨since, least⟩
  exact Sound.foldl (.start setup since) (.start setup since) rfl least

end Run

/-! ## Soundness and completeness -/

/-- After any events in order, a lookup asks the API, and then once, exactly if no answer about its
link holds any more, be it that there was none or that the last one has no expiry or has expired.
If it does not ask, it gives the threats of that answer for its own link. Purges and reports before
it make no difference. -/
theorem look_after (setup : Setup) (events : List Event) (url : String) (asked : Instant)
    (reply : Reply) (answered : Instant)
    (ordered : Ordered (events.flatMap Event.readings ++ [asked])) :
    let run := Run.after setup events
    let looked := (look setup url asked reply answered run.state).1
    (looked.fetched = [setup.client.requestUrl url] ↔
      ¬∃ received, run.last? url = some received ∧ received.Holds setup asked) ∧
    (looked.fetched = [] ↔
      ∃ received, run.last? url = some received ∧ received.Holds setup asked) ∧
    (looked.fetched = [] → ∃ received, run.last? url = some received ∧
      looked.answer = .ok [received.answer.threats.map fun threat => ⟨threat, url⟩]) ∧
    looked = (look setup url asked reply answered
      (Run.after setup (events.filter Event.isLookup)).state).1 := by
  rcases Run.Sound.after setup ordered with ⟨sound, otherSound, same⟩
  have congr : (look setup url asked reply answered (Run.after setup events).state).1 =
      (look setup url asked reply answered
        (Run.after setup (events.filter Event.isLookup)).state).1 :=
    sound.look_congr otherSound (Int.le_refl _) same
  simp only
  by_cases holds : ∃ received, (Run.after setup events).last? url = some received ∧
      received.Holds setup asked
  · rcases holds with ⟨received, last, still⟩
    rcases Run.held?_of_holds last still with ⟨expiry, held⟩
    have looked_eq : look setup url asked reply answered (Run.after setup events).state = _ :=
      sound.look_held (Int.le_refl _) held
    rw [looked_eq] at congr ⊢
    refine ⟨?_, ?_, fun _ => ⟨received, last, rfl⟩, congr⟩
    · refine iff_of_false ?_ (not_not_intro ⟨received, last, still⟩)
      exact (List.cons_ne_nil _ _).symm
    · exact iff_of_true rfl ⟨received, last, still⟩
  · have lapsed := Run.held?_eq_none holds
    have looked_eq : look setup url asked reply answered (Run.after setup events).state = _ :=
      sound.look_lapsed (Int.le_refl _) lapsed
    rw [looked_eq] at congr ⊢
    refine ⟨iff_of_true rfl holds, ?_, fun none => ?_, congr⟩
    · exact iff_of_false (List.cons_ne_nil _ _) holds
    · exact absurd none (List.cons_ne_nil _ _)

/-- A report of malware that is kept for an hour is served a minute later, with a purge in
between. -/
theorem look_after_malware :
    ∃ (setup : Setup) (body : List UInt8),
      Ordered ([.lookup "u" ⟨0, 0⟩ (.response 200 (some body)) ⟨1, 0⟩, .purge ⟨30, 0⟩].flatMap
        Event.readings ++ [⟨60, 0⟩]) ∧
      (look setup "u" ⟨60, 0⟩ .unreachable ⟨60, 0⟩ (Run.after setup
        [.lookup "u" ⟨0, 0⟩ (.response 200 (some body)) ⟨1, 0⟩, .purge ⟨30, 0⟩]).state).1 =
          ⟨.ok [[⟨.malware, "u"⟩]], []⟩ := by
  have ordered (body : List UInt8) :
      Ordered ([.lookup "u" ⟨0, 0⟩ (.response 200 (some body)) ⟨1, 0⟩, .purge ⟨30, 0⟩].flatMap
        Event.readings ++ [⟨60, 0⟩]) := by
    simp [Ordered, Event.readings, Instant.milliseconds]
  have reported : ∃ (setup : Setup) (body : List UInt8),
      (Run.after setup [.lookup "u" ⟨0, 0⟩ (.response 200 (some body)) ⟨1, 0⟩,
        .purge ⟨30, 0⟩]).last? "u" = some ⟨"u", ⟨[.malware], none⟩, ⟨1, 0⟩⟩ ∧
      setup.expiry ⟨[.malware], none⟩ ⟨1, 0⟩ = some ⟨3601, 0⟩ :=
    ⟨⟨⟨{ scheme := "https" }, "key", [], false⟩, .ofSeconds 3600, .zero⟩,
      Utf8.encode "\x7b\"threat\":\x7b\"threatTypes\":[\"malware\"]\x7d\x7d",
      by decide +kernel, by decide +kernel⟩
  rcases reported with ⟨setup, body, last, expires⟩
  refine ⟨setup, body, ordered body, ?_⟩
  rcases look_after setup _ "u" ⟨60, 0⟩ .unreachable ⟨60, 0⟩ (ordered body)
    with ⟨_, silent, served, _⟩
  have fetched := silent.mpr ⟨_, last, ⟨3601, 0⟩, expires, by decide⟩
  rcases served fetched with ⟨received, found, answer⟩
  rw [last] at found
  cases found
  exact congr (congrArg Looked.mk answer) fetched

end LinkGuard.Remote
