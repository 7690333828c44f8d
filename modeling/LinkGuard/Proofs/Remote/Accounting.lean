import LinkGuard.Proofs.Remote.Batches
import Mathlib.Data.List.Nodup
import Mathlib.Data.List.Perm.Subperm

/-!
# What the counters count

A lookup is counted once: when it is served from the cache, or when it goes on to the API, which is
before its request is sent. If the reply is an error this is counted too, and it is what the engine
reports until another reply is there. A lookup that is dropped on the way is not forgotten, since it
has been counted when it began.

What lookups have done cannot be told from the state, so we write it down beside a service. Its
lookups are those of all batches together, and they are numbered in the order in which they were
called for. The lookups of a batch that has failed just take no more steps.
-/

namespace LinkGuard.Remote

/-- A call of the API that has come back: the lookup that made it, and its error if it failed. -/
structure Completion where
  place : Nat
  error : Option EngineError

/-- The lookups that were served from the cache, those that went on to the API, those that have sent
their request, and the calls that have come back, the last one first. -/
structure Ledger where
  served : List Nat := []
  asked : List Nat := []
  sent : List Nat := []
  completed : List Completion := []

/-- An engine with the lookups that it was called for, its surroundings, and its ledger. -/
structure Service (World : Type) where
  lookups : List Pending := []
  state : State
  world : World
  ledger : Ledger := {}

variable {World : Type}

/-- What may happen to a service. Others may change the cache while the world goes on. -/
inductive Service.Event (World : Type) where
  | begins (urls : List String)
  | steps (place : Nat)
  | sends (place : Nat)
  | purges
  | reports
  | changes (cache : Cache.File) (world : World)

namespace Service

/-- The ledger after the next step of a lookup. A call cannot come back before it was sent. -/
def note (outside : Outside (StateM World)) (setup : Setup) (service : Service World)
    (place : Nat) : Ledger :=
  let ledger := service.ledger
  match service.lookups[place]? with
  | some ⟨url, .waiting⟩ =>
    let now := (outside.now service.world).1
    match service.state.cache.find url now now with
    | .ok (some _) => { ledger with served := place :: ledger.served }
    | _ => { ledger with asked := place :: ledger.asked }
  | some ⟨url, .asking⟩ =>
    let reply := (outside.fetch (setup.client.requestUrl url) service.world).1
    let error :=
      match setup.client.interpret url reply with
      | .error error => some (.unavailable error.message)
      | .ok _ => none
    { ledger with
      sent := ledger.sent.insert place, completed := ⟨place, error⟩ :: ledger.completed }
  | _ => ledger

/-- A service after an event. A request is sent only while its lookup asks. -/
def step (outside : Outside (StateM World)) (setup : Setup) (service : Service World) :
    Event World → Service World
  | .begins urls => { service with lookups := service.lookups ++ urls.map fun url => { url } }
  | .steps place =>
    let moved := stepAt outside setup place service.lookups service.state service.world
    ⟨moved.1.1, moved.1.2, moved.2, service.note outside setup place⟩
  | .sends place =>
    match service.lookups[place]? with
    | some ⟨_, .asking⟩ =>
      { service with
        ledger := { service.ledger with sent := service.ledger.sent.insert place } }
    | _ => service
  | .purges =>
    let read := outside.now service.world
    { service with state := (service.state.purge read.1).2, world := read.2 }
  | .reports => { service with world := (outside.now service.world).2 }
  | .changes cache world => { service with state := { service.state with cache }, world }

/-- A service after events, in order. -/
def run (outside : Outside (StateM World)) (setup : Setup) (service : Service World)
    (events : List (Event World)) : Service World :=
  events.foldl (step outside setup) service

end Service

/-- The lookup has gone on to the API, and no reply is there yet. -/
def Progress.isAsking : Progress → Bool
  | asking => true
  | waiting | storing _ | done _ => false

namespace Service

/-- What a step of a lookup does to a service. -/
inductive Move (service : Service World) (place : Nat) : Service World → Prop
  | nobody : Move service place service
  | serves {url : String} {result : Except EngineError (List Finding)} (world : World)
      (here : service.lookups[place]? = some ⟨url, .waiting⟩) :
      Move service place
        { lookups := service.lookups.set place ⟨url, .done result⟩
          state := { service.state with byCache := service.state.byCache + 1 }
          world
          ledger := { service.ledger with served := place :: service.ledger.served } }
  | asks {url : String} (world : World)
      (here : service.lookups[place]? = some ⟨url, .waiting⟩) :
      Move service place
        { lookups := service.lookups.set place ⟨url, .asking⟩
          state := { service.state with byApi := service.state.byApi + 1 }
          world
          ledger := { service.ledger with asked := place :: service.ledger.asked } }
  | completes {url : String} {progress : Progress} (error : Option EngineError) (world : World)
      (here : service.lookups[place]? = some ⟨url, .asking⟩)
      (begun : progress.hasBegun = true) (answered : progress.isAsking = false) :
      Move service place
        { lookups := service.lookups.set place ⟨url, progress⟩
          state := { service.state with
            failed := service.state.failed + error.isSome.toNat, lastError := error }
          world
          ledger := { service.ledger with
            sent := service.ledger.sent.insert place
            completed := ⟨place, error⟩ :: service.ledger.completed } }
  | ends {pending : Pending} {result : Except EngineError (List Finding)} (cache : Cache.File)
      (world : World) (here : service.lookups[place]? = some pending)
      (begun : pending.progress.hasBegun = true) (answered : pending.progress.isAsking = false) :
      Move service place
        { service with
          lookups := service.lookups.set place ⟨pending.url, .done result⟩
          state := { service.state with cache }
          world }

theorem move_steps (outside : Outside (StateM World)) (setup : Setup) (service : Service World)
    (place : Nat) : service.Move place (service.step outside setup (.steps place)) := by
  cases here : service.lookups[place]? with
  | none =>
      have stays := stepAt_of_none outside setup here service.state service.world
      have noted : service.note outside setup place = service.ledger := by
        simp only [note, here]
      simp only [step, stays, noted]
      exact .nobody
  | some pending =>
      have moved := stepAt_of_getElem? outside setup here service.state service.world
      have turn := turn_advance outside setup pending.url pending.progress service.state
        service.world
      simp only [step, moved]
      generalize advance outside setup pending.url pending.progress service.state service.world =
        next at turn ⊢
      rcases next with ⟨next, world⟩
      rcases pending with ⟨url, progress⟩
      simp only at turn ⊢
      cases turn with
      | @finds verdict found =>
          have noted : service.note outside setup place =
              { service.ledger with served := place :: service.ledger.served } := by
            simp only [note, here, found]
          rw [noted]
          exact .serves world here
      | asks missing =>
          have noted : service.note outside setup place =
              { service.ledger with asked := place :: service.ledger.asked } := by
            simp only [note, here]
          rw [noted]
          exact .asks world here
      | @fails error failed =>
          have noted : service.note outside setup place =
              { service.ledger with
                sent := service.ledger.sent.insert place
                completed := ⟨place, some (.unavailable error.message)⟩ ::
                  service.ledger.completed } := by
            simp only [note, here, failed]
          rw [noted]
          exact .completes (some (.unavailable error.message)) world here rfl rfl
      | learns learnt | passes learnt =>
          have noted : service.note outside setup place =
              { service.ledger with
                sent := service.ledger.sent.insert place
                completed := ⟨place, none⟩ :: service.ledger.completed } := by
            simp only [note, here, learnt]
          rw [noted]
          exact .completes none world here rfl rfl
      | stores verdict =>
          have noted : service.note outside setup place = service.ledger := by
            simp only [note, here]
          rw [noted]
          exact .ends _ world here rfl rfl
      | rests result =>
          have noted : service.note outside setup place = service.ledger := by
            simp only [note, here]
          rw [noted]
          exact .ends service.state.cache world here rfl rfl

/-! ## The invariant -/

/-- A lookup that was called for and has got so far. -/
def Any (service : Service World) (far : Progress → Bool) (place : Nat) : Prop :=
  ∃ pending, service.lookups[place]? = some pending ∧ far pending.progress = true

/-- The invariant of a service. The counters are what the ledger says, and the ledger has every
lookup where it belongs. -/
structure Sound (service : Service World) : Prop where
  byCache : service.state.byCache = service.ledger.served.length
  byApi : service.state.byApi = service.ledger.asked.length
  failed : service.state.failed = service.ledger.completed.countP (·.error.isSome)
  error : service.state.lastError = service.ledger.completed.head?.bind Completion.error
  once : (service.ledger.served ++ service.ledger.asked).Nodup
  begun : ∀ place, place ∈ service.ledger.served ++ service.ledger.asked ↔
    service.Any Progress.hasBegun place
  sentOnce : service.ledger.sent.Nodup
  sent : service.ledger.sent ⊆ service.ledger.asked
  completedOnce : (service.ledger.completed.map Completion.place).Nodup
  completed : service.ledger.completed.map Completion.place ⊆ service.ledger.sent
  awaited : ∀ place, service.Any Progress.isAsking place →
    place ∈ service.ledger.asked ∧ place ∉ service.ledger.completed.map Completion.place

section Invariant

variable {service next : Service World} {place other : Nat} {pending : Pending}
  {progress : Progress}

theorem sound_start (cache : Cache.File) (world : World) :
    Sound { state := { cache }, world } where
  byCache := rfl
  byApi := rfl
  failed := rfl
  error := rfl
  once := List.nodup_nil
  begun := by simp [Any]
  sentOnce := List.nodup_nil
  sent := nofun
  completedOnce := List.nodup_nil
  completed := nofun
  awaited := by simp [Any]

/-- A step changes how far its own lookup has got, and no other one. -/
theorem any_set {far : Progress → Bool} {state : State} {world : World} {ledger : Ledger}
    (here : service.lookups[place]? = some pending) :
    Any ⟨service.lookups.set place ⟨pending.url, progress⟩, state, world, ledger⟩ far other ↔
      if other = place then far progress = true else service.Any far other := by
  by_cases same : other = place
  · subst same
    rcases List.getElem?_eq_some_iff.mp here with ⟨bound, _⟩
    simp [Any, bound]
  · simp [Any, same, List.getElem?_set_ne (Ne.symm same)]

theorem Any.of_here {far : Progress → Bool} (here : service.lookups[place]? = some pending)
    (any : service.Any far place) : far pending.progress = true := by
  rcases any with ⟨other, there, got⟩
  cases here.symm.trans there
  exact got

theorem Sound.uncounted {url : String} (sound : service.Sound)
    (here : service.lookups[place]? = some ⟨url, .waiting⟩) :
    place ∉ service.ledger.served ++ service.ledger.asked := by
  rw [sound.begun place]
  intro begun
  cases begun.of_here here

/-- A lookup that has begun and goes on is counted already. -/
theorem Sound.begun_set {state : State} {world : World} {ledger : Ledger} (sound : service.Sound)
    (here : service.lookups[place]? = some pending) (before : pending.progress.hasBegun = true)
    (after : progress.hasBegun = true) :
    other ∈ service.ledger.served ++ service.ledger.asked ↔
      Any ⟨service.lookups.set place ⟨pending.url, progress⟩, state, world, ledger⟩
        Progress.hasBegun other := by
  rw [any_set here, sound.begun]
  split
  case isTrue same =>
    subst same
    exact iff_of_true ⟨pending, here, before⟩ after
  case isFalse => rfl

theorem Sound.move (sound : service.Sound) (move : service.Move place next) : next.Sound := by
  cases move with
  | nobody => exact sound
  | serves world here =>
      have uncounted := sound.uncounted here
      refine { sound with
        byCache := ?_, once := List.nodup_cons.mpr ⟨uncounted, sound.once⟩, begun := ?_,
        awaited := ?_ }
      · simp [sound.byCache]
      · intro other
        rw [any_set here, List.cons_append, List.mem_cons, sound.begun]
        by_cases same : other = place <;> simp [same]
      · intro other
        rw [any_set here]
        by_cases same : other = place
        · simp [same, Progress.isAsking]
        · simpa [same] using sound.awaited other
  | asks world here =>
      have uncounted := sound.uncounted here
      refine { sound with
        byApi := ?_, once := List.nodup_middle.mpr (List.nodup_cons.mpr ⟨uncounted, sound.once⟩),
        begun := ?_, sent := List.subset_cons_of_subset _ sound.sent, awaited := ?_ }
      · simp [sound.byApi]
      · intro other
        have begun := sound.begun other
        rw [List.mem_append] at begun
        rw [any_set here, List.mem_append, List.mem_cons]
        by_cases same : other = place
        · simp [same]
        · simp only [same, false_or, if_false, begun]
      · intro other
        rw [any_set here]
        by_cases same : other = place
        · subst same
          intro _
          refine ⟨List.mem_cons_self, fun completed => uncounted ?_⟩
          exact List.mem_append_right _ (sound.sent (sound.completed completed))
        · rw [if_neg same]
          intro asking
          have awaited := sound.awaited other asking
          exact ⟨List.mem_cons_of_mem _ awaited.1, awaited.2⟩
  | completes error world here begun answered =>
      have awaited := sound.awaited place ⟨_, here, rfl⟩
      refine { sound with
        failed := ?_, error := rfl, begun := fun _ => sound.begun_set here rfl begun,
        sentOnce := sound.sentOnce.insert, sent := ?_,
        completedOnce := List.nodup_cons.mpr ⟨awaited.2, sound.completedOnce⟩, completed := ?_,
        awaited := ?_ }
      · cases error <;> simp [sound.failed]
      · intro other mem
        rcases List.mem_insert_iff.mp mem with rfl | mem
        · exact awaited.1
        · exact sound.sent mem
      · intro other mem
        rcases List.mem_cons.mp mem with rfl | mem
        · exact List.mem_insert_self
        · exact List.mem_insert_of_mem (sound.completed mem)
      · intro other
        rw [any_set here]
        by_cases same : other = place
        · simp [same, answered]
        · rw [if_neg same]
          intro asking
          have others := sound.awaited other asking
          exact ⟨others.1, by simpa [same] using others.2⟩
  | ends cache world here begun answered =>
      refine { sound with begun := fun _ => sound.begun_set here begun rfl, awaited := ?_ }
      intro other
      rw [any_set here]
      by_cases same : other = place
      · simp [same, Progress.isAsking]
      · simpa [same] using sound.awaited other

/-- Lookups that have not begun make no difference. -/
theorem any_append {far : Progress → Bool} {state : State} {ledger : Ledger} {world : World}
    (urls : List String) (idle : far .waiting = false) :
    Any ⟨service.lookups ++ urls.map fun url => ({ url } : Pending), state, world, ledger⟩ far
      place ↔ service.Any far place := by
  constructor
  · rintro ⟨pending, there, got⟩
    rw [List.getElem?_append] at there
    split at there
    case isTrue => exact ⟨pending, there, got⟩
    case isFalse =>
      rcases List.mem_map.mp (List.mem_of_getElem? there) with ⟨url, _, rfl⟩
      rw [idle] at got
      cases got
  · rintro ⟨pending, there, got⟩
    rcases List.getElem?_eq_some_iff.mp there with ⟨bound, _⟩
    exact ⟨pending, (List.getElem?_append_left bound).trans there, got⟩

end Invariant

/-- Removing what has expired changes nothing but the cache. -/
theorem purge_eq (now : Instant) (state : State) :
    ∃ cache, (state.purge now).2 = { state with cache } := by
  rw [State.purge]
  split
  · exact ⟨_, rfl⟩
  · exact ⟨_, rfl⟩

section Steps

variable {outside : Outside (StateM World)} {setup : Setup} {service : Service World}

theorem Sound.step (sound : service.Sound) (event : Event World) :
    (service.step outside setup event).Sound := by
  cases event with
  | begins urls =>
      refine { sound with begun := ?_, awaited := ?_ }
      · intro place
        exact (sound.begun place).trans (any_append urls rfl).symm
      · intro place asking
        exact sound.awaited place ((any_append urls rfl).mp asking)
  | steps place => exact sound.move (move_steps outside setup service place)
  | sends place =>
      simp only [Service.step]
      split
      case h_1 url here =>
        have awaited := sound.awaited place ⟨_, here, rfl⟩
        refine { sound with sentOnce := sound.sentOnce.insert, sent := ?_, completed := ?_ }
        · intro other mem
          rcases List.mem_insert_iff.mp mem with rfl | mem
          · exact awaited.1
          · exact sound.sent mem
        · intro other mem
          exact List.mem_insert_of_mem (sound.completed mem)
      case h_2 => exact sound
  | purges =>
      rcases purge_eq (outside.now service.world).1 service.state with ⟨cache, purged⟩
      simp only [Service.step, purged]
      exact { sound with }
  | reports => exact { sound with }
  | changes cache world => exact { sound with }

theorem Sound.run (sound : service.Sound) (events : List (Event World)) :
    (service.run outside setup events).Sound := by
  induction events generalizing service with
  | nil => exact sound
  | cons event events ih => exact ih (sound.step event)

/-- No counter is less than before. -/
structure Grows (service next : Service World) : Prop where
  byCache : service.state.byCache ≤ next.state.byCache
  byApi : service.state.byApi ≤ next.state.byApi
  failed : service.state.failed ≤ next.state.failed

theorem grows_of_counters_eq {next : Service World}
    (byCache : next.state.byCache = service.state.byCache)
    (byApi : next.state.byApi = service.state.byApi)
    (failed : next.state.failed = service.state.failed) : service.Grows next :=
  ⟨Nat.le_of_eq byCache.symm, Nat.le_of_eq byApi.symm, Nat.le_of_eq failed.symm⟩

theorem grows_step (event : Event World) : service.Grows (service.step outside setup event) := by
  cases event with
  | begins | reports | changes => exact grows_of_counters_eq rfl rfl rfl
  | steps place =>
      have move := move_steps outside setup service place
      generalize service.step outside setup (.steps place) = next at move ⊢
      cases move with
      | nobody | ends => exact grows_of_counters_eq rfl rfl rfl
      | serves => exact ⟨Nat.le_succ _, Nat.le_refl _, Nat.le_refl _⟩
      | asks => exact ⟨Nat.le_refl _, Nat.le_succ _, Nat.le_refl _⟩
      | completes => exact ⟨Nat.le_refl _, Nat.le_refl _, Nat.le_add_right _ _⟩
  | sends place =>
      simp only [Service.step]
      split <;> exact grows_of_counters_eq rfl rfl rfl
  | purges =>
      rcases purge_eq (outside.now service.world).1 service.state with ⟨cache, purged⟩
      simp only [Service.step, purged]
      exact grows_of_counters_eq rfl rfl rfl

theorem grows_run (events : List (Event World)) :
    service.Grows (service.run outside setup events) := by
  induction events generalizing service with
  | nil => exact grows_of_counters_eq rfl rfl rfl
  | cons event events ih =>
      have first : service.Grows (service.step outside setup event) := grows_step event
      have rest : Grows (service.step outside setup event)
          (service.run outside setup (event :: events)) := ih
      exact ⟨Nat.le_trans first.byCache rest.byCache, Nat.le_trans first.byApi rest.byApi,
        Nat.le_trans first.failed rest.failed⟩

/-- The event is not the step of a lookup, or the lookup is served from the cache by it. -/
def Spares (outside : Outside (StateM World)) (service : Service World) : Event World → Prop
  | .steps place => ∃ url verdict, service.lookups[place]? = some ⟨url, .waiting⟩ ∧
      service.state.cache.find url (outside.now service.world).1 (outside.now service.world).1 =
        .ok (some verdict)
  | .begins _ | .sends _ | .purges | .reports | .changes _ _ => True

theorem Spares.step {event : Event World} (spares : service.Spares outside event) :
    let next := service.step outside setup event
    next.state.lastError = service.state.lastError ∧ next.state.byApi = service.state.byApi ∧
      next.state.failed = service.state.failed := by
  cases event with
  | begins | reports | changes => exact ⟨rfl, rfl, rfl⟩
  | steps place =>
      rcases spares with ⟨url, verdict, here, found⟩
      have moved := stepAt_of_getElem? outside setup here service.state service.world
      simp only [Service.step, moved, advance_waiting, State.consult_found found, and_self]
  | sends place =>
      simp only [Service.step]
      split <;> exact ⟨rfl, rfl, rfl⟩
  | purges =>
      rcases purge_eq (outside.now service.world).1 service.state with ⟨cache, purged⟩
      simp only [Service.step, purged, and_self]

/-- Steps of lookups do what an order of steps does. -/
theorem run_steps (outside : Outside (StateM World)) (setup : Setup) (service : Service World)
    (places : List Nat) :
    let next := service.run outside setup (places.map .steps)
    interleave outside setup places service.lookups service.state service.world =
      ((next.lookups, next.state), next.world) := by
  induction places generalizing service with
  | nil => rfl
  | cons place places ih => exact ih (service.step outside setup (.steps place))

/-- What looking up links together has come to is a run of the service: the lookups are called for,
and then they take steps at the places. -/
structure IsBatch (outside : Outside (StateM World)) (setup : Setup) (service : Service World)
    (urls : List String) (looked : (EngineAnswer × State) × World) (places : List Nat) : Prop where
  /-- No other lookups take steps, -/
  own : ∀ place ∈ places, service.lookups.length ≤ place
  /-- and all of these do, unless the batch fails. -/
  covers : ∀ results, looked.1.1 = .ok results → ∀ place < urls.length,
    service.lookups.length + place ∈ places
  /-- The answer is what the lookups have come to, -/
  ended : ∃ ended, ended.map Pending.url = urls ∧ Concluded ended looked.1.1 ∧
    (service.run outside setup (.begins urls :: places.map .steps)).lookups =
      service.lookups ++ ended
  /-- and all else is as the batch leaves it. -/
  left : let next := service.run outside setup (.begins urls :: places.map .steps)
    next.state = looked.1.2 ∧ next.world = looked.2

/-- A batch is a run of its lookups. -/
theorem exists_isBatch (service : Service World) (order : List Nat) (urls : List String) :
    ∃ places, service.IsBatch outside setup urls
      (lookupTogether outside setup order urls service.state service.world) places := by
  rcases lookupTogether_eq outside setup order urls service.state service.world with
    ⟨tail, ended, taken, concluded⟩
  have shifted := interleave_shift outside setup service.lookups
    (urls.map fun url => { url }) (order ++ tail) service.state service.world
  have stepped := run_steps outside setup (service.step outside setup (.begins urls))
    ((order ++ tail).map (service.lookups.length + ·))
  have links := map_url_interleave outside setup (order ++ tail) (urls.map fun url => { url })
    service.state service.world
  have ended_eq := congrArg (fun moved => moved.1.1) taken
  rw [taken] at shifted links
  have same := stepped.symm.trans shifted
  refine ⟨(order ++ tail).map (service.lookups.length + ·), ?_, ?_, ⟨ended, ?_, concluded, ?_⟩,
    ?_, ?_⟩
  · intro place mem
    rcases List.mem_map.mp mem with ⟨offset, _, rfl⟩
    exact Nat.le_add_right _ _
  · intro results finished place isLink
    rw [finished] at concluded
    exact List.mem_map_of_mem (concluded.mem_order ended_eq isLink)
  · simpa [Function.comp_def] using links
  · exact congrArg (fun moved => moved.1.1) same
  · exact congrArg (fun moved => moved.1.2) same
  · exact congrArg Prod.snd same

end Steps

/-! ## The account -/

/-- How the report of a service and its ledger agree, and what later events and whole batches do to
them. -/
structure Accounted (outside : Outside (StateM World)) (setup : Setup) (service : Service World) :
    Prop where
  stats : ∀ now, let stats := (service.state.report now).1
    stats.byCache = service.ledger.served.length ∧ stats.byApi = service.ledger.asked.length ∧
      stats.failed = service.ledger.completed.countP (·.error.isSome)
  error : ∀ now cached, service.state.cache.count now = .ok cached →
    (service.state.report now).2 = service.ledger.completed.head?.bind Completion.error
  once : (service.ledger.served ++ service.ledger.asked).Nodup
  begun : ∀ place, place ∈ service.ledger.served ++ service.ledger.asked ↔
    service.Any Progress.hasBegun place
  sent : service.ledger.sent.Nodup ∧ service.ledger.sent ⊆ service.ledger.asked
  completed : (service.ledger.completed.map Completion.place).Nodup ∧
    service.ledger.completed.map Completion.place ⊆ service.ledger.sent
  bounds : service.ledger.sent.length ≤ service.state.byApi ∧
    service.state.failed ≤ service.state.byApi
  grows : ∀ later, service.Grows (service.run outside setup later)
  spares : ∀ event, service.Spares outside event →
    let next := service.step outside setup event
    next.state.lastError = service.state.lastError ∧ next.state.byApi = service.state.byApi ∧
      next.state.failed = service.state.failed
  batches : ∀ order urls, ∃ places, service.IsBatch outside setup urls
    (lookupTogether outside setup order urls service.state service.world) places

section Account

variable {outside : Outside (StateM World)} {setup : Setup} {service : Service World}

theorem report_stats (now : Instant) (state : State) :
    (state.report now).1.byCache = state.byCache ∧ (state.report now).1.byApi = state.byApi ∧
      (state.report now).1.failed = state.failed := by
  rw [State.report]
  split <;> exact ⟨rfl, rfl, rfl⟩

theorem report_error {now : Instant} {state : State} {cached : Nat}
    (counted : state.cache.count now = .ok cached) : (state.report now).2 = state.lastError := by
  rw [State.report, counted]

theorem Sound.length_completed_le (sound : service.Sound) :
    service.ledger.completed.length ≤ service.ledger.asked.length := by
  have within := List.subperm_of_subset sound.completedOnce
    (List.Subset.trans sound.completed sound.sent)
  simpa using within.length_le

theorem Sound.accounted (sound : service.Sound) : service.Accounted outside setup where
  stats now := by
    rcases report_stats now service.state with ⟨byCache, byApi, failed⟩
    exact ⟨byCache.trans sound.byCache, byApi.trans sound.byApi, failed.trans sound.failed⟩
  error now cached counted := (report_error counted).trans sound.error
  once := sound.once
  begun := sound.begun
  sent := ⟨sound.sentOnce, sound.sent⟩
  completed := ⟨sound.completedOnce, sound.completed⟩
  bounds := by
    constructor
    · rw [sound.byApi]
      exact (List.subperm_of_subset sound.sentOnce sound.sent).length_le
    · rw [sound.byApi, sound.failed]
      exact Nat.le_trans List.countP_le_length sound.length_completed_le
  grows := grows_run
  spares _ spares := spares.step
  batches := exists_isBatch service

end Account

/-- Whatever happens to an engine, its counters account for every lookup. -/
theorem accounted_run (outside : Outside (StateM World)) (setup : Setup) (cache : Cache.File)
    (world : World) (events : List (Event World)) :
    (run outside setup { state := { cache }, world } events).Accounted outside setup := by
  have sound : Sound (run outside setup { state := { cache }, world } events) :=
    (sound_start cache world).run events
  exact sound.accounted

end Service

end LinkGuard.Remote
