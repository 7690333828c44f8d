import LinkGuard.Proofs.Cache.Table
import LinkGuard.Proofs.Remote.Batches

/-!
# Lookups that overtake each other

A lookup takes the reply of the API in one step and stores the verdict in another. When several
lookups of one link go on together, they may store in another order than they have received. The
cache has no means to tell which of two verdicts is the newer one: a row is put in the place of
the one that is there. So the verdict that it holds is the one stored last, and this is the newest
among those that were stored unless a newer one was stored before it.

Which answers were received and which verdicts stored, and in what order, cannot be told from the
state. So we let the lookups run and write both down beside them.
-/

namespace LinkGuard.Remote

/-- A verdict that a lookup has made from an answer, and the place of the lookup in its batch. -/
structure Entry where
  place : Nat
  verdict : Verdict
  deriving DecidableEq, Repr

/-- Lookups that go on together, the verdicts whose answers they have received, and those that they
have stored, the last one first. -/
structure Race (World : Type) where
  batch : List Pending
  state : State
  world : World
  received : List Entry := []
  stored : List Entry := []

namespace Race

variable {World : Type}

/-- The race as it begins, when no lookup has taken a step. -/
def start (urls : List String) (state : State) (world : World) : Race World :=
  { batch := urls.map fun url => { url }, state, world }

/-- How far the lookup at a place has come. -/
def progress? (race : Race World) (place : Nat) : Option Progress :=
  race.batch[place]?.map Pending.progress

/-- The lookup at a place takes its next step. If it has asked and has something to store then, this
has been received. If it has had something to store, this is stored, unless the cache fails. -/
def step (outside : Outside (StateM World)) (setup : Setup) (race : Race World) (place : Nat) :
    Race World :=
  let stepped := stepAt outside setup place race.batch race.state race.world
  let next := { race with batch := stepped.1.1, state := stepped.1.2, world := stepped.2 }
  match race.progress? place, next.progress? place with
  | some .asking, some (.storing verdict) =>
    { next with received := ⟨place, verdict⟩ :: race.received }
  | some (.storing verdict), _ =>
    if (race.state.cache.put verdict).isOk then
      { next with stored := ⟨place, verdict⟩ :: race.stored }
    else next
  | _, _ => next

/-- The race after steps of the lookups at these places, in order. -/
def run (outside : Outside (StateM World)) (setup : Setup) (race : Race World) (order : List Nat) :
    Race World :=
  order.foldl (step outside setup) race

/-- Of the verdicts about a link, the one that was stored last. -/
def lastStored? (race : Race World) (url : String) : Option Entry :=
  race.stored.find? fun entry => entry.verdict.url = url

/-- Of the verdicts about a link that were stored, the one whose answer was received last. -/
def newestStored? (race : Race World) (url : String) : Option Entry :=
  race.received.find? fun entry => entry.verdict.url = url && race.stored.contains entry

/-- A verdict was stored before another one although its answer was received behind the other. -/
def Overtakes (race : Race World) (newer older : Entry) : Prop :=
  [newer, older].Sublist race.received ∧ [older, newer].Sublist race.stored

end Race

section Steps

variable {World : Type} (outside : Outside (StateM World)) (setup : Setup)

/-- What a step at a place does. -/
inductive Race.Step (race : Race World) (place : Nat) : Race World → Prop
  /-- There is no lookup. -/
  | nobody (world : World) : Step race place { race with world }
  /-- Nothing to be stored is received, and nothing is stored. -/
  | quiet {pending : Pending} {progress : Progress} {state : State} (world : World)
      (here : race.batch[place]? = some pending) (cache : state.cache = race.state.cache)
      (empty : ∀ verdict, progress ≠ .storing verdict)
      (keeps : pending.progress.hasAnswer = true → progress.hasAnswer = true) :
      Step race place
        { race with batch := race.batch.set place ⟨pending.url, progress⟩, state, world }
  | receives {verdict : Verdict} {state : State} (world : World)
      (here : race.batch[place]? = some ⟨verdict.url, .asking⟩)
      (cache : state.cache = race.state.cache) :
      Step race place
        { race with
          batch := race.batch.set place ⟨verdict.url, .storing verdict⟩, state, world,
          received := ⟨place, verdict⟩ :: race.received }
  | stores {url : String} {verdict : Verdict} {result : Except EngineError (List Finding)}
      {state : State} {rows : List Cache.Row} (world : World)
      (here : race.batch[place]? = some ⟨url, .storing verdict⟩)
      (table : race.state.cache.rows = some rows)
      (cache : state.cache.rows = some (Cache.replaceRow (.ofVerdict verdict) rows)) :
      Step race place
        { race with
          batch := race.batch.set place ⟨url, .done result⟩, state, world,
          stored := ⟨place, verdict⟩ :: race.stored }

theorem Race.progress?_set {race : Race World} {place : Nat} {pending : Pending}
    (here : race.batch[place]? = some pending) (progress : Progress) (state : State)
    (world : World) :
    Race.progress?
      { race with batch := race.batch.set place ⟨pending.url, progress⟩, state, world } place =
        some progress := by
  rcases List.getElem?_eq_some_iff.mp here with ⟨bound, _⟩
  simp [progress?, bound]

theorem Race.step_spec (race : Race World) (place : Nat) :
    Step race place (race.step outside setup place) := by
  cases here : race.batch[place]? with
  | none =>
      have stays := stepAt_of_none outside setup here race.state race.world
      have progress_eq : race.progress? place = none := by simp [progress?, here]
      simp only [step, stays, progress_eq]
      exact .nobody race.world
  | some pending =>
      have moved := stepAt_of_getElem? outside setup here race.state race.world
      have progress_eq : race.progress? place = some pending.progress := by simp [progress?, here]
      simp only [step, moved, progress_eq, progress?_set here]
      have turn := turn_advance outside setup pending.url pending.progress race.state race.world
      generalize advance outside setup pending.url pending.progress race.state race.world = next
        at turn ⊢
      rcases next with ⟨next, world⟩
      rcases pending with ⟨url, progress⟩
      simp only at turn ⊢
      generalize outside.fetch (setup.client.requestUrl url) race.world = fetched at turn
      generalize (outside.now fetched.2).1 = answered at turn
      cases turn with
      | finds | asks | fails | passes => exact .quiet world here rfl nofun nofun
      | @learns answer =>
          have asking : race.batch[place]? =
              some ⟨(setup.verdict url answer answered).url, .asking⟩ := here
          exact .receives world asking rfl
      | stores verdict =>
          cases table : race.state.cache.rows with
          | none =>
              simp only [Cache.File.put_of_none table]
              exact .quiet world here rfl nofun fun _ => rfl
          | some rows =>
              simp only [Cache.File.put_eq table]
              exact .stores world here table rfl
      | rests => exact .quiet world here rfl nofun id

end Steps

/-! ## What a race keeps -/

/-- The lookup that the verdict belongs to has received it. -/
def Entry.HasArrived (batch : List Pending) (entry : Entry) : Prop :=
  ∃ pending, batch[entry.place]? = some pending ∧ pending.url = entry.verdict.url ∧
    pending.progress.hasAnswer = true

/-- The table has one row for the link, and this is the one that stores the verdict. -/
def Holds (file : Cache.File) (url : String) (verdict : Verdict) : Prop :=
  ∃ rows, file.rows = some rows ∧ rows.filter (fun row => row.url = url) = [.ofVerdict verdict]

/-- The invariant of a race. A lookup receives once and stores only what it has received, and the
table holds what was stored last. -/
structure Race.Sound {World : Type} (race : Race World) : Prop where
  arrived : ∀ entry ∈ race.received, entry.HasArrived race.batch
  distinct : race.received.Nodup
  awaited : ∀ place url verdict, race.batch[place]? = some ⟨url, .storing verdict⟩ →
    ⟨place, verdict⟩ ∈ race.received
  stored : race.stored ⊆ race.received
  held : ∀ url entry, race.lastStored? url = some entry →
    Holds race.state.cache url entry.verdict

section Invariant

variable {World : Type} {outside : Outside (StateM World)} {setup : Setup}
  {race next : Race World} {place : Nat}

theorem Race.sound_start (urls : List String) (state : State) (world : World) :
    (start urls state world).Sound where
  arrived := nofun
  distinct := List.nodup_nil
  awaited place url verdict here := by
    simp [start] at here
  stored := nofun
  held := nofun

theorem Entry.HasArrived.set {batch : List Pending} {entry : Entry} {pending : Pending}
    {progress : Progress} (arrived : entry.HasArrived batch)
    (here : batch[place]? = some pending)
    (keeps : pending.progress.hasAnswer = true → progress.hasAnswer = true) :
    entry.HasArrived (batch.set place ⟨pending.url, progress⟩) := by
  rcases arrived with ⟨mine, there, url_eq, answered⟩
  by_cases same : entry.place = place
  · cases same
    cases here.symm.trans there
    rcases List.getElem?_eq_some_iff.mp here with ⟨bound, _⟩
    exact ⟨⟨pending.url, progress⟩, by simp [bound], url_eq, keeps answered⟩
  · refine ⟨mine, ?_, url_eq, answered⟩
    rwa [List.getElem?_set_ne (Ne.symm same)]

theorem storing_of_set {batch : List Pending} {other : Nat} {url link : String}
    {progress : Progress} {verdict : Verdict}
    (there : (batch.set place ⟨link, progress⟩)[other]? = some ⟨url, .storing verdict⟩) :
    batch[other]? = some ⟨url, .storing verdict⟩ ∨ other = place ∧ progress = .storing verdict := by
  by_cases same : place = other
  · cases same
    right
    rcases List.getElem?_eq_some_iff.mp there with ⟨_, there⟩
    rw [List.getElem_set_self] at there
    cases there
    exact ⟨rfl, rfl⟩
  · rw [List.getElem?_set_ne same] at there
    exact .inl there

theorem holds_put {file : Cache.File} {verdict : Verdict} {rows : List Cache.Row}
    (put : file.rows = some (Cache.replaceRow (.ofVerdict verdict) rows)) :
    Holds file verdict.url verdict := by
  refine ⟨_, put, ?_⟩
  rw [Cache.filter_replaceRow]
  exact if_pos rfl

theorem Holds.put {file after : Cache.File} {url : String} {verdict other : Verdict}
    {rows : List Cache.Row} (holds : Holds file url verdict) (table : file.rows = some rows)
    (put : after.rows = some (Cache.replaceRow (.ofVerdict other) rows))
    (different : other.url ≠ url) : Holds after url verdict := by
  rcases holds with ⟨present, table', rows_eq⟩
  cases table.symm.trans table'
  refine ⟨_, put, ?_⟩
  rw [Cache.filter_replaceRow]
  exact (if_neg different).trans rows_eq

theorem Race.Sound.not_received (sound : race.Sound) {url : String} {verdict : Verdict}
    (here : race.batch[place]? = some ⟨url, .asking⟩) : ⟨place, verdict⟩ ∉ race.received := by
  intro mem
  rcases sound.arrived _ mem with ⟨pending, there, _, answered⟩
  cases here.symm.trans there
  cases answered

theorem Race.Sound.step (sound : race.Sound) (step : race.Step place next) : next.Sound := by
  cases step with
  | nobody world => exact ⟨sound.arrived, sound.distinct, sound.awaited, sound.stored, sound.held⟩
  | quiet world here cache empty keeps =>
      refine ⟨fun entry mem => (sound.arrived entry mem).set here keeps, sound.distinct, ?_,
        sound.stored, ?_⟩
      · intro other url verdict there
        rcases storing_of_set there with before | ⟨_, storing⟩
        · exact sound.awaited other url verdict before
        · exact absurd storing (empty verdict)
      · intro url entry last
        simp only [cache]
        exact sound.held url entry last
  | @receives verdict _ world here cache =>
      refine ⟨?_, ?_, ?_, ?_, ?_⟩
      · intro entry mem
        rcases List.mem_cons.mp mem with rfl | mem
        · rcases List.getElem?_eq_some_iff.mp here with ⟨bound, _⟩
          exact ⟨⟨verdict.url, .storing verdict⟩, by simp [bound], rfl, rfl⟩
        · exact (sound.arrived entry mem).set here fun _ => rfl
      · exact List.nodup_cons.mpr ⟨sound.not_received here, sound.distinct⟩
      · intro other url verdict there
        rcases storing_of_set there with before | ⟨rfl, storing⟩
        · exact List.mem_cons_of_mem _ (sound.awaited other url verdict before)
        · cases storing
          exact List.mem_cons_self
      · exact List.subset_cons_of_subset _ sound.stored
      · intro url entry last
        simp only [cache]
        exact sound.held url entry last
  | @stores link verdict _ _ rows world here table cache =>
      refine ⟨fun entry mem => (sound.arrived entry mem).set here fun _ => rfl, sound.distinct, ?_,
        ?_, ?_⟩
      · intro other url verdict there
        rcases storing_of_set there with before | ⟨_, storing⟩
        · exact sound.awaited other url verdict before
        · cases storing
      · exact List.cons_subset.mpr ⟨sound.awaited _ _ _ here, sound.stored⟩
      · intro url entry last
        rw [Race.lastStored?, List.find?_cons] at last
        by_cases isLink : verdict.url = url
        · simp only [isLink, decide_true, Option.some.injEq] at last
          rw [← last, ← isLink]
          exact holds_put cache
        · simp only [isLink, decide_false] at last
          exact (sound.held url entry last).put table cache isLink

theorem Race.Sound.run (sound : race.Sound) (outside : Outside (StateM World)) (setup : Setup)
    (order : List Nat) : (race.run outside setup order).Sound := by
  induction order generalizing race with
  | nil => exact sound
  | cons place order ih => exact ih (sound.step (race.step_spec outside setup place))

end Invariant

/-! ## Which verdict is held -/

section Order

variable {α : Type} {entries : List α} {first other : α} {test : α → Bool}

/-- What is found stands in front of everything else that could have been found. -/
theorem sublist_of_find? (found : entries.find? test = some first) (mem : other ∈ entries)
    (passes : test other = true) (different : other ≠ first) : [first, other].Sublist entries := by
  rcases List.find?_eq_some_iff_append.mp found with ⟨_, before, behind, rfl, failing⟩
  have behind_mem : other ∈ behind := by
    rcases List.mem_append.mp mem with mem | mem
    · have fails := failing other mem
      rw [passes] at fails
      cases fails
    · exact (List.mem_cons.mp mem).resolve_left different
  apply List.Sublist.trans _ (List.sublist_append_right before _)
  exact (List.singleton_sublist.mpr behind_mem).cons_cons first

/-- Without repeats, nothing that could have been found stands in front of what is found. -/
theorem not_sublist_of_find? (distinct : entries.Nodup) (found : entries.find? test = some first)
    (passes : test other = true) : ¬[other, first].Sublist entries := by
  rcases List.find?_eq_some_iff_append.mp found with ⟨_, before, behind, rfl, failing⟩
  have once : first ∉ behind := by
    have tail := (List.nodup_append.mp distinct).2.1
    exact (List.nodup_cons.mp tail).1
  intro pair
  rcases List.sublist_append_iff.mp pair with ⟨head, tail, split_eq, head_sub, tail_sub⟩
  cases head with
  | nil =>
      cases split_eq
      rcases List.sublist_cons_iff.mp tail_sub with later | ⟨rest, rest_eq, later⟩
      · exact once (later.subset (by simp))
      · cases rest_eq
        exact once (List.singleton_sublist.mp later)
  | cons one head =>
      cases (List.cons.inj split_eq).1
      have fails := failing other (head_sub.subset List.mem_cons_self)
      rw [passes] at fails
      cases fails

end Order

section Held

variable {World : Type} {race : Race World} {url : String} {entry : Entry}

theorem Race.mem_of_lastStored? (last : race.lastStored? url = some entry) :
    entry ∈ race.stored ∧ entry.verdict.url = url := by
  have passes := List.find?_some last
  exact ⟨List.mem_of_find?_eq_some last, of_decide_eq_true passes⟩

theorem Race.mem_of_newestStored? (newest : race.newestStored? url = some entry) :
    entry ∈ race.stored ∧ entry.verdict.url = url := by
  have passes := List.find?_some newest
  rw [Bool.and_eq_true, decide_eq_true_eq, List.contains_iff_mem] at passes
  exact passes.symm

/-- The verdict stored last is the newest of those stored exactly if no newer one was stored
before. -/
theorem Race.Sound.newestStored?_iff (sound : race.Sound)
    (last : race.lastStored? url = some entry) :
    race.newestStored? url = some entry ↔
      ¬∃ newer, newer.verdict.url = url ∧ race.Overtakes newer entry := by
  rcases mem_of_lastStored? last with ⟨entry_stored, isLink⟩
  have candidate {other : Entry} (other_url : other.verdict.url = url)
      (mem : other ∈ race.stored) :
      (other.verdict.url = url && race.stored.contains other) = true := by
    simp [other_url, mem]
  constructor
  · rintro newest ⟨newer, newer_url, received, stored⟩
    have newer_stored : newer ∈ race.stored := stored.subset (by simp)
    exact not_sublist_of_find? sound.distinct newest (candidate newer_url newer_stored) received
  · intro behind
    cases newest : race.newestStored? url with
    | none =>
        have fails := List.find?_eq_none.mp newest entry (sound.stored entry_stored)
        exact absurd (candidate isLink entry_stored) fails
    | some newer =>
        rcases mem_of_newestStored? newest with ⟨newer_stored, newer_url⟩
        apply Classical.byContradiction
        intro different
        have different : newer ≠ entry := fun same => different (congrArg some same)
        refine behind ⟨newer, newer_url, ?_, ?_⟩
        · exact sublist_of_find? newest (sound.stored entry_stored)
            (candidate isLink entry_stored) different.symm
        · exact sublist_of_find? last newer_stored (decide_eq_true newer_url) different

end Held

section Runs

variable {World : Type} (outside : Outside (StateM World)) (setup : Setup)

theorem Race.batch_step (race : Race World) (place : Nat) :
    stepAt outside setup place race.batch race.state race.world =
      let next := race.step outside setup place
      ((next.batch, next.state), next.world) := by
  rw [step]
  dsimp only
  split
  · rfl
  · split <;> rfl
  · rfl

theorem Race.interleave_eq (race : Race World) (order : List Nat) :
    interleave outside setup order race.batch race.state race.world =
      let ended := race.run outside setup order
      ((ended.batch, ended.state), ended.world) := by
  induction order generalizing race with
  | nil => rfl
  | cons place order ih =>
      rw [interleave, bind_apply, race.batch_step]
      exact ih (race.step outside setup place)

theorem Race.Step.urls_eq {race next : Race World} {place : Nat} (step : race.Step place next) :
    next.batch.map Pending.url = race.batch.map Pending.url := by
  cases step with
  | nobody world => rfl
  | quiet world here cache empty keeps => exact map_url_set here _
  | receives world here cache => exact map_url_set here _
  | stores world here table cache => exact map_url_set here _

theorem Race.urls_run (race : Race World) (order : List Nat) :
    (race.run outside setup order).batch.map Pending.url = race.batch.map Pending.url := by
  induction order generalizing race with
  | nil => rfl
  | cons place order ih =>
      exact (ih (race.step outside setup place)).trans (race.step_spec outside setup place).urls_eq

/-- However the steps of lookups come, once one of them has stored a verdict about its link, the
cache holds the one that was stored last. This is also the one whose answer was received last, of
those that were stored, exactly if no newer one was stored before it. -/
theorem held_is_stored_last (urls : List String) (state : State) (world : World)
    (order : List Nat) :
    let race := (Race.start urls state world).run outside setup order
    interleave outside setup order (urls.map fun url => { url }) state world =
      ((race.batch, race.state), race.world) ∧
    ∀ url entry, race.lastStored? url = some entry →
      urls[entry.place]? = some url ∧ entry ∈ race.received ∧
      Holds race.state.cache url entry.verdict ∧
      (race.newestStored? url = some entry ↔
        ¬∃ newer, newer.verdict.url = url ∧ race.Overtakes newer entry) := by
  have sound := (Race.sound_start urls state world).run outside setup order
  have urls_eq := (Race.start urls state world).urls_run outside setup order
  refine ⟨Race.interleave_eq outside setup (Race.start urls state world) order, ?_⟩
  intro url entry last
  rcases Race.mem_of_lastStored? last with ⟨mem, isLink⟩
  have received := sound.stored mem
  refine ⟨?_, received, sound.held url entry last, sound.newestStored?_iff last⟩
  rcases sound.arrived entry received with ⟨pending, here, url_eq, _⟩
  have urls_start : (Race.start urls state world).batch.map Pending.url = urls := by
    rw [Race.start, List.map_map]
    exact List.map_id urls
  rw [urls_start] at urls_eq
  rw [← urls_eq, List.getElem?_map, here]
  exact congrArg some (url_eq.trans isLink)

end Runs

/-- An API that gives replies in their order, while the clock stands still. -/
def Outside.replaying : Outside (StateM (List Reply)) where
  now replies := (⟨0, 0⟩, replies)
  fetch _ replies := (replies.headD .unreachable, replies.tail)

/-- Of two answers about a link the second one reports malware. If it is stored last, nothing has
overtaken it, and it is held. -/
theorem held_is_stored_last_malware :
    ∃ (setup : Setup) (replies : List Reply),
      let race := (Race.start ["u", "u"] { cache := { rows := some [] } } replies).run .replaying
        setup [0, 1, 0, 1, 0, 1]
      race.lastStored? "u" = some ⟨1, ⟨"u", [.malware], ⟨3600, 0⟩⟩⟩ ∧
      Holds race.state.cache "u" ⟨"u", [.malware], ⟨3600, 0⟩⟩ ∧
      ¬∃ newer, newer.verdict.url = "u" ∧
        race.Overtakes newer ⟨1, ⟨"u", [.malware], ⟨3600, 0⟩⟩⟩ := by
  have raced : ∃ (setup : Setup) (replies : List Reply),
      let race := (Race.start ["u", "u"] { cache := { rows := some [] } } replies).run .replaying
        setup [0, 1, 0, 1, 0, 1]
      race.lastStored? "u" = some ⟨1, ⟨"u", [.malware], ⟨3600, 0⟩⟩⟩ ∧
      race.newestStored? "u" = some ⟨1, ⟨"u", [.malware], ⟨3600, 0⟩⟩⟩ :=
    ⟨⟨⟨{ scheme := "https" }, "key", [], false⟩, .ofSeconds 3600, .ofSeconds 3600⟩,
      [.response 200 (some (Utf8.encode "\x7b\x7d")), .response 200 (some
        (Utf8.encode "\x7b\"threat\":\x7b\"threatTypes\":[\"MALWARE\"]\x7d\x7d"))],
      by decide +kernel, by decide +kernel⟩
  rcases raced with ⟨setup, replies, last, newest⟩
  rcases held_is_stored_last .replaying setup ["u", "u"] { cache := { rows := some [] } } replies
    [0, 1, 0, 1, 0, 1] with ⟨_, held⟩
  rcases held "u" _ last with ⟨_, _, holds, foremost⟩
  exact ⟨setup, replies, last, holds, foremost.mp newest⟩

/-- If it is stored first, the older answer overwrites it, and the cache holds that the link is
safe. -/
theorem older_answer_overwrites_newer :
    ∃ (setup : Setup) (replies : List Reply),
      let race := (Race.start ["u", "u"] { cache := { rows := some [] } } replies).run .replaying
        setup [0, 1, 0, 1, 1, 0]
      race.newestStored? "u" = some ⟨1, ⟨"u", [.malware], ⟨3600, 0⟩⟩⟩ ∧
      race.lastStored? "u" = some ⟨0, ⟨"u", [], ⟨3600, 0⟩⟩⟩ ∧
      race.state.cache.rows = some [⟨"u", "[]", 3600000⟩] :=
  ⟨⟨⟨{ scheme := "https" }, "key", [], false⟩, .ofSeconds 3600, .ofSeconds 3600⟩,
    [.response 200 (some (Utf8.encode "\x7b\x7d")), .response 200 (some
      (Utf8.encode "\x7b\"threat\":\x7b\"threatTypes\":[\"MALWARE\"]\x7d\x7d"))],
    by decide +kernel, by decide +kernel, by decide +kernel⟩

end LinkGuard.Remote
