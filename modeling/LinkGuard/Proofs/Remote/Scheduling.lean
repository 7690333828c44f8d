import LinkGuard.Proofs.Remote.Answers
import LinkGuard.Proofs.Remote.Batches
import Mathlib.Data.List.Nodup

/-!
# Batches in any order

A batch either has the findings of all its links, in their places, or it has none, and it has none
exactly if a call of the API has failed.

When no link is named twice, the API has one answer for each link and the clock stands still, the
order of the steps does not matter. A lookup then changes nothing that another one depends on: the
counters and the last error are told by how far the lookups have come, and so are the rows of each
link. So two batches that have come equally far leave the same behind. The rows of the table may be
in another order, since a row that is stored is put in front.
-/

namespace LinkGuard.Remote

variable {World : Type}

/-- A step changes what is counted of its own lookup only. -/
theorem countP_set_add {batch : List Pending} {place : Nat} {before : Pending}
    (here : batch[place]? = some before) (counts : Pending → Bool) (after : Pending) :
    (batch.set place after).countP counts + (counts before).toNat =
      batch.countP counts + (counts after).toNat := by
  rcases List.getElem?_eq_some_iff.mp here with ⟨bound, rfl⟩
  rw [List.countP_set bound]
  cases counted : counts batch[place] with
  | false => cases counts after <;> simp
  | true =>
      have some : 0 < batch.countP counts :=
        List.countP_pos_iff.mpr ⟨_, List.getElem_mem bound, counted⟩
      cases counts after <;> simp <;> omega

theorem countP_set_same {batch : List Pending} {place : Nat} {before after : Pending}
    {counts : Pending → Bool} (here : batch[place]? = some before)
    (same : counts after = counts before) :
    (batch.set place after).countP counts = batch.countP counts := by
  have counted := countP_set_add here counts after
  rw [same] at counted
  exact Nat.add_right_cancel counted

theorem countP_set_more {batch : List Pending} {place : Nat} {before after : Pending}
    {counts : Pending → Bool} (here : batch[place]? = some before)
    (first : counts before = false) (now : counts after = true) :
    (batch.set place after).countP counts = batch.countP counts + 1 := by
  have counted := countP_set_add here counts after
  rwa [first, now] at counted

/-- What the lookup has found or has to store is about its link. -/
def Pending.IsFaithful (pending : Pending) : Prop :=
  match pending.progress with
  | .storing verdict => verdict.url = pending.url
  | .done (.ok findings) => ∀ finding ∈ findings, finding.url = pending.url
  | _ => True

theorem url_of_mem_findings {threats : List Threat} {url : String} :
    ∀ finding ∈ Verdict.findings threats url, finding.url = url := by
  intro finding mem
  rcases List.mem_map.mp mem with ⟨threat, _, rfl⟩
  rfl

section Alignment

variable {setup : Setup} {asked answered : Instant} {reply : Reply} {state : State}
  {pending : Pending} {next : Progress × State}

theorem Turn.isFaithful
    (turn : Turn setup pending.url asked reply answered state pending.progress next)
    (faithful : pending.IsFaithful) : Pending.IsFaithful ⟨pending.url, next.1⟩ := by
  rcases pending with ⟨url, progress⟩
  cases turn with
  | finds | passes => exact url_of_mem_findings
  | asks | fails => trivial
  | learns => rfl
  | stores verdict =>
      cases faithful
      exact url_of_mem_findings
  | rests => exact faithful

end Alignment

/-- The lookups of a batch are about the links asked for. -/
def IsFor (urls : List String) (batch : List Pending) : Prop :=
  batch.map Pending.url = urls ∧ ∀ pending ∈ batch, pending.IsFaithful

theorem isFor_start (urls : List String) : IsFor urls (urls.map fun url => { url }) := by
  refine ⟨by simp [Function.comp_def], fun pending mem => ?_⟩
  rcases List.mem_map.mp mem with ⟨url, _, rfl⟩
  trivial

theorem isFor_interleave (outside : Outside (StateM World)) (setup : Setup) (order : List Nat)
    (urls : List String) (state : State) (world : World) :
    IsFor urls (interleave outside setup order (urls.map fun url => { url }) state world).1.1 := by
  apply interleave_keeps (fun batch _ _ => IsFor urls batch) _ order (isFor_start urls)
  intro batch state world place pending isFor here
  refine ⟨(map_url_set here _).trans isFor.1, ?_⟩
  intro other mem
  rcases List.mem_or_eq_of_mem_set mem with mem | rfl
  · exact isFor.2 other mem
  · exact (turn_advance outside setup pending.url pending.progress state world).isFaithful
      (isFor.2 pending (List.mem_of_getElem? here))

/-- The results of a batch belong to its links. -/
theorem IsFor.aligned {urls : List String} {ended : List Pending} {results : List (List Finding)}
    (isFor : IsFor urls ended) (concluded : Concluded ended (.ok results)) :
    List.Forall₂ (fun url findings => ∀ finding ∈ findings, finding.url = url) urls results := by
  cases concluded with | finished finished =>
  rcases isFor with ⟨rfl, faithful⟩
  induction ended generalizing results with
  | nil =>
      cases results with
      | nil => exact .nil
      | cons => cases finished
  | cons pending ended ih =>
      cases results with
      | nil => cases finished
      | cons findings results =>
          rcases pending with ⟨url, progress⟩
          rw [List.map_cons, List.map_cons, List.cons.injEq] at finished
          rcases finished with ⟨first, rest⟩
          cases first
          rcases List.forall_mem_cons.mp faithful with ⟨own, others⟩
          exact .cons own (ih rest others)

/-- The lookup has ended in an error. -/
def Pending.hasFailed (pending : Pending) : Bool := pending.failure?.isSome

section Failures

variable {setup : Setup} {asked answered : Instant} {reply : Reply} {state : State}
  {pending : Pending} {next : Progress × State}

/-- A failure is counted when its lookup fails. -/
theorem Turn.failed_eq
    (turn : Turn setup pending.url asked reply answered state pending.progress next) :
    next.2.failed + pending.hasFailed.toNat =
      state.failed + (Pending.hasFailed ⟨pending.url, next.1⟩).toNat := by
  rcases pending with ⟨url, progress⟩
  cases turn <;> rfl

theorem Turn.failed_le
    (turn : Turn setup pending.url asked reply answered state pending.progress next) :
    state.failed ≤ next.2.failed := by
  rcases pending with ⟨url, progress⟩
  cases turn with
  | fails => exact Nat.le_succ _
  | _ => exact Nat.le_refl _

end Failures

theorem failed_interleave (outside : Outside (StateM World)) (setup : Setup) (order : List Nat)
    (batch : List Pending) (state : State) (world : World) :
    let moved := interleave outside setup order batch state world
    moved.1.2.failed + batch.countP Pending.hasFailed =
      state.failed + moved.1.1.countP Pending.hasFailed := by
  apply interleave_keeps (fun moved reached _ => reached.failed + batch.countP Pending.hasFailed =
    state.failed + moved.countP Pending.hasFailed) _ order rfl
  intro moved reached world place pending counted here
  have turn := (turn_advance outside setup pending.url pending.progress reached world).failed_eq
  have set := countP_set_add here Pending.hasFailed
    ⟨pending.url, (advance outside setup pending.url pending.progress reached world).1.1⟩
  simp only at turn set ⊢
  omega

theorem failed_le_interleave (outside : Outside (StateM World)) (setup : Setup) (order : List Nat)
    (batch : List Pending) (state : State) (world : World) :
    state.failed ≤ (interleave outside setup order batch state world).1.2.failed := by
  apply interleave_keeps (fun _ reached _ => state.failed ≤ reached.failed) _ order
    (Nat.le_refl _)
  intro moved reached world place pending least here
  exact Nat.le_trans least
    (turn_advance outside setup pending.url pending.progress reached world).failed_le

theorem Concluded.isError_iff {ended : List Pending} {answer : EngineAnswer}
    (concluded : Concluded ended answer) :
    (∃ error, answer = .error error) ↔ 0 < ended.countP Pending.hasFailed := by
  rw [List.countP_pos_iff]
  cases concluded with
  | failed failed =>
      rcases List.exists_of_findSome?_eq_some failed with ⟨pending, mem, failure⟩
      refine iff_of_true ⟨_, rfl⟩ ⟨pending, mem, ?_⟩
      rw [Pending.hasFailed, failure]
      rfl
  | @finished results finished =>
      refine iff_of_false (by simp) ?_
      rintro ⟨pending, mem, failed⟩
      have progress := List.mem_map_of_mem (f := Pending.progress) mem
      rw [finished] at progress
      rcases List.mem_map.mp progress with ⟨findings, _, done⟩
      rw [Pending.hasFailed, Pending.failure?, ← done] at failed
      cases failed

/-! ## A fixed course -/

/-- What decides how the lookups of a batch go, when the clock stands still and the API has one
answer for each link: the setup, the state from which the batch sets out, the time, and the answers.
-/
structure Course where
  setup : Setup
  origin : State
  now : Instant
  api : String → Answer

namespace Course

variable (course : Course)

/-- The verdict about a link that the cache has at the outset. -/
def found? (url : String) : Option Verdict :=
  match course.origin.cache.find url course.now course.now with
  | .ok found => found
  | .error _ => none

/-- The verdict that is made from the answer about a link. -/
def verdict (url : String) : Verdict := course.setup.verdict url (course.api url) course.now

/-- The threats that a lookup of the link reports, be it from the cache or from the API. -/
def threats (url : String) : List Threat :=
  match course.found? url with
  | some verdict => verdict.threats
  | none => (course.api url).threats

/-- The link is asked for and its answer is stored. -/
def isStored (url : String) : Bool :=
  (course.found? url).isNone && (course.verdict url).isFresh course.now

/-- How a lookup stands, if it follows the course. -/
def Fits (pending : Pending) : Prop :=
  match pending.progress with
  | .waiting => True
  | .asking => course.found? pending.url = none
  | .storing verdict => course.isStored pending.url = true ∧ verdict = course.verdict pending.url
  | .done result => result = .ok (Verdict.findings (course.threats pending.url) pending.url)

/-- The lookup was served from the cache. -/
def served (pending : Pending) : Bool :=
  (course.found? pending.url).isSome && pending.progress.hasBegun

/-- The lookup has gone on to the API. -/
def asked (pending : Pending) : Bool :=
  (course.found? pending.url).isNone && pending.progress.hasBegun

/-- The lookup has an answer of the API. -/
def learnt (pending : Pending) : Bool :=
  (course.found? pending.url).isNone && pending.progress.hasAnswer

/-- The lookup is about the link, and its verdict is stored by now. -/
def stored (url : String) (pending : Pending) : Bool :=
  pending.url = url && course.isStored url && pending.progress.isDone

/-- The rows about a link, if there is a table. -/
def rowsFor (url : String) (cache : Cache.File) : Option (List Cache.Row) :=
  cache.rows.map fun rows => rows.filter fun row => row.url = url

/-- The state is told by how far the lookups of the batch have come. -/
structure Tracks (batch : List Pending) (state : State) : Prop where
  fits : ∀ pending ∈ batch, course.Fits pending
  byCache : state.byCache = course.origin.byCache + batch.countP course.served
  byApi : state.byApi = course.origin.byApi + batch.countP course.asked
  failed : state.failed = course.origin.failed
  lastError : state.lastError =
    if batch.countP course.learnt = 0 then course.origin.lastError else none
  versions : state.cache.versions = course.origin.cache.versions
  rows : ∀ url, rowsFor url state.cache =
    if batch.countP (course.stored url) = 0 then rowsFor url course.origin.cache
    else (rowsFor url course.origin.cache).map fun _ => [.ofVerdict (course.verdict url)]

variable {course} {batch : List Pending} {state : State}

theorem tracks_start (urls : List String) :
    course.Tracks (urls.map fun url => { url }) course.origin := by
  have uncounted (counts : Pending → Bool) (idle : ∀ url, counts { url } = false) :
      (urls.map fun url => ({ url } : Pending)).countP counts = 0 := by
    simp [List.countP_map, Function.comp_def, idle]
  refine ⟨?_, ?_, ?_, rfl, ?_, rfl, ?_⟩
  · intro pending mem
    rcases List.mem_map.mp mem with ⟨url, _, rfl⟩
    trivial
  · rw [uncounted course.served fun url => by simp [served]]
    rfl
  · rw [uncounted course.asked fun url => by simp [asked]]
    rfl
  · rw [uncounted course.learnt fun url => by simp [learnt], if_pos rfl]
  · intro link
    rw [uncounted (course.stored link) fun url => by simp [stored], if_pos rfl]

theorem find_congr {url : String} {cache other : Cache.File}
    (same : rowsFor url cache = rowsFor url other) (now : Instant) :
    cache.find url now now = other.find url now now := by
  cases table : cache.rows with
  | none =>
      rw [rowsFor, rowsFor, table] at same
      have gone := Option.map_eq_none_iff.mp same.symm
      simp only [Cache.File.find, Cache.File.table, table, gone]
  | some rows =>
      rw [rowsFor, rowsFor, table] at same
      rcases Option.map_eq_some_iff.mp same.symm with ⟨others, table', same⟩
      rw [Cache.File.find_eq table, Cache.File.find_eq table', Cache.find?_answers_eq,
        Cache.find?_answers_eq, same]

/-- A lookup that has not begun finds what there was at the outset. -/
theorem Tracks.find_eq {place : Nat} {url : String} (tracks : course.Tracks batch state)
    (different : (batch.map Pending.url).Nodup) (here : batch[place]? = some ⟨url, .waiting⟩) :
    state.cache.find url course.now course.now =
      course.origin.cache.find url course.now course.now := by
  apply find_congr
  rw [tracks.rows url, if_pos]
  rw [List.countP_eq_zero]
  intro other mem isStored
  simp only [stored, Bool.and_eq_true, decide_eq_true_eq] at isStored
  have same := List.inj_on_of_nodup_map different mem (List.mem_of_getElem? here) isStored.1.1
  rw [same] at isStored
  cases isStored.2

theorem found?_eq_some {url : String} {verdict : Verdict}
    (found : course.origin.cache.find url course.now course.now = .ok (some verdict)) :
    course.found? url = some verdict := by
  rw [found?, found]

theorem found?_eq_none {url : String}
    (missing : ∀ verdict, course.origin.cache.find url course.now course.now ≠ .ok (some verdict)) :
    course.found? url = none := by
  rw [found?]
  split
  case h_1 found found_eq =>
    cases found with
    | none => rfl
    | some verdict => exact absurd found_eq (missing verdict)
  case h_2 => rfl

section Turns

variable {place : Nat} {pending : Pending} {progress : Progress}

theorem Tracks.fits_set (tracks : course.Tracks batch state) {after : Pending}
    (fits : course.Fits after) : ∀ other ∈ batch.set place after, course.Fits other := by
  intro other mem
  rcases List.mem_or_eq_of_mem_set mem with mem | rfl
  · exact tracks.fits other mem
  · exact fits

/-- Until its verdict is stored, a lookup leaves the rows as they are. -/
theorem Tracks.rows_set (tracks : course.Tracks batch state) {before after : Pending}
    (here : batch[place]? = some before)
    (unstored : ∀ url, course.stored url after = course.stored url before) (url : String) :
    rowsFor url state.cache =
      if (batch.set place after).countP (course.stored url) = 0 then
        rowsFor url course.origin.cache
      else (rowsFor url course.origin.cache).map fun _ => [.ofVerdict (course.verdict url)] := by
  rw [countP_set_same here (unstored url)]
  exact tracks.rows url

theorem Tracks.finds {url : String} {verdict : Verdict} (tracks : course.Tracks batch state)
    (here : batch[place]? = some ⟨url, .waiting⟩) (found : course.found? url = some verdict) :
    course.Tracks (batch.set place ⟨url, .done (.ok (Verdict.findings verdict.threats url))⟩)
      { state with byCache := state.byCache + 1 } where
  fits := by
    apply tracks.fits_set
    simp [Fits, threats, found]
  byCache := by
    rw [countP_set_more here (by simp [served])
      (by simp [served, found]), ← Nat.add_assoc, ← tracks.byCache]
  byApi := by
    rw [countP_set_same here (by simp [asked, found])]
    exact tracks.byApi
  failed := tracks.failed
  lastError := by
    rw [countP_set_same here (by simp [learnt, found])]
    exact tracks.lastError
  versions := tracks.versions
  rows := by
    apply tracks.rows_set here
    intro link
    by_cases same : url = link
    · subst same
      simp [stored, isStored, found]
    · simp [stored, same]

theorem Tracks.asks {url : String} (tracks : course.Tracks batch state)
    (here : batch[place]? = some ⟨url, .waiting⟩) (missing : course.found? url = none) :
    course.Tracks (batch.set place ⟨url, .asking⟩) { state with byApi := state.byApi + 1 } where
  fits := tracks.fits_set missing
  byCache := by
    rw [countP_set_same here (by simp [served, missing])]
    exact tracks.byCache
  byApi := by
    rw [countP_set_more here (by simp [asked])
      (by simp [asked, missing]), ← Nat.add_assoc, ← tracks.byApi]
  failed := tracks.failed
  lastError := by
    rw [countP_set_same here (by simp [learnt])]
    exact tracks.lastError
  versions := tracks.versions
  rows := tracks.rows_set here fun link => by simp [stored]

theorem Tracks.answers {url : String} (tracks : course.Tracks batch state)
    (here : batch[place]? = some ⟨url, .asking⟩) (answered : progress.hasAnswer = true)
    (begun : progress.hasBegun = true) (fits : course.Fits ⟨url, progress⟩)
    (unstored : course.isStored url = true → progress.isDone = false) :
    course.Tracks (batch.set place ⟨url, progress⟩) { state with lastError := none } where
  fits := tracks.fits_set fits
  byCache := by
    rw [countP_set_same here (by simp [served, begun])]
    exact tracks.byCache
  byApi := by
    rw [countP_set_same here (by simp [asked, begun])]
    exact tracks.byApi
  failed := tracks.failed
  lastError := by
    have missing : course.found? url = none := tracks.fits _ (List.mem_of_getElem? here)
    rw [countP_set_more here (by simp [learnt])
      (by simp [learnt, missing, answered])]
    rfl
  versions := tracks.versions
  rows := by
    apply tracks.rows_set here
    intro link
    by_cases same : url = link
    · subst same
      cases isStored : course.isStored url with
      | false => simp [stored, isStored]
      | true => simp [stored, unstored isStored]
    · simp [stored, same]

/-- A table that is missing at the outset is missing later, and the other way round. -/
theorem Tracks.rows_eq_none_iff (tracks : course.Tracks batch state) :
    state.cache.rows = none ↔ course.origin.cache.rows = none := by
  have rows := tracks.rows ""
  simp only [rowsFor] at rows
  constructor
  · intro gone
    rw [gone] at rows
    split at rows <;> simpa using rows.symm
  · intro gone
    simpa [gone] using rows

theorem Tracks.stores {url : String} {verdict : Verdict} (tracks : course.Tracks batch state)
    (here : batch[place]? = some ⟨url, .storing verdict⟩) :
    course.Tracks
      (batch.set place ⟨url, .done (.ok (Verdict.findings verdict.threats verdict.url))⟩)
      { state with cache := (state.cache.put verdict).toOption.getD state.cache } := by
  have fits : course.isStored url = true ∧ verdict = course.verdict url :=
    tracks.fits _ (List.mem_of_getElem? here)
  rcases fits with ⟨isStored, rfl⟩
  have missing : course.found? url = none := by
    simp only [Course.isStored, Bool.and_eq_true, Option.isNone_iff_eq_none] at isStored
    exact isStored.1
  refine ⟨?_, ?_, ?_, tracks.failed, ?_, ?_, ?_⟩
  · apply tracks.fits_set
    simp [Fits, threats, missing]
    rfl
  · rw [countP_set_same here (by simp [served])]
    exact tracks.byCache
  · rw [countP_set_same here (by simp [asked])]
    exact tracks.byApi
  · rw [countP_set_same here (by simp [learnt])]
    exact tracks.lastError
  · cases table : state.cache.rows with
    | none =>
        rw [Cache.File.put_of_none table]
        exact tracks.versions
    | some rows =>
        rw [Cache.File.put_eq table]
        exact tracks.versions
  · intro link
    have rows := tracks.rows link
    cases table : state.cache.rows with
    | none =>
        have gone := tracks.rows_eq_none_iff.mp table
        rw [Cache.File.put_of_none table]
        simp [rowsFor, gone, table, Except.toOption]
    | some rows =>
        have stored_rows : rowsFor link
            ((state.cache.put (course.verdict url)).toOption.getD state.cache) =
              if url = link then some [.ofVerdict (course.verdict url)]
              else rowsFor link state.cache := by
          rw [Cache.File.put_eq table]
          simp only [rowsFor, Except.toOption, Option.getD_some, Option.map_some,
            Cache.filter_replaceRow, table]
          exact apply_ite some _ _ _
        rw [stored_rows]
        by_cases same : url = link
        · subst same
          have more : (batch.set place ⟨url, .done (.ok (Verdict.findings
              (course.verdict url).threats (course.verdict url).url))⟩).countP
                (course.stored url) = batch.countP (course.stored url) + 1 :=
            countP_set_more here (by simp [stored]) (by simp [stored, isStored])
          have present : course.origin.cache.rows ≠ none := by
            intro gone
            rw [tracks.rows_eq_none_iff.mpr gone] at table
            cases table
          rcases Option.ne_none_iff_exists'.mp present with ⟨others, origin_table⟩
          simp [more, rowsFor, origin_table]
        · rw [if_neg same, countP_set_same here (by simp [stored, same])]
          exact tracks.rows link

/-- During the batch the clock stands still, and the API answers each of its links, always in the
same way. -/
structure Governs (course : Course) (outside : Outside (StateM World)) (urls : List String)
    (during : World → Prop) : Prop where
  clock : ∀ {world}, during world →
    (outside.now world).1 = course.now ∧ during (outside.now world).2
  api : ∀ {url world}, url ∈ urls → during world →
    let fetched := outside.fetch (course.setup.client.requestUrl url) world
    course.setup.client.interpret url fetched.1 = .ok (course.api url) ∧ during fetched.2

theorem Governs.during_advance {outside : Outside (StateM World)} {urls : List String}
    {during : World → Prop} {world : World} {url : String}
    (governs : course.Governs outside urls during) (mem : url ∈ urls) (here : during world)
    (progress : Progress) (state : State) :
    during (advance outside course.setup url progress state world).2 := by
  cases progress with
  | waiting => exact (governs.clock here).2
  | asking => exact (governs.clock (governs.api mem here).2).2
  | storing verdict => exact here
  | done result => exact here

theorem Tracks.step {outside : Outside (StateM World)} {urls : List String}
    {during : World → Prop} {world : World} (tracks : course.Tracks batch state)
    (governs : course.Governs outside urls during) (present : during world)
    (different : urls.Nodup) (about : batch.map Pending.url = urls) (mem : pending.url ∈ urls)
    (here : batch[place]? = some pending) :
    let moved := advance outside course.setup pending.url pending.progress state world
    course.Tracks (batch.set place ⟨pending.url, moved.1.1⟩) moved.1.2 := by
  have turn := turn_advance outside course.setup pending.url pending.progress state world
  rcases governs.api mem present with ⟨answers, later⟩
  simp only [(governs.clock present).1, (governs.clock later).1] at turn
  intro moved
  change Turn course.setup pending.url course.now _ course.now state pending.progress moved.1
    at turn
  generalize moved.1 = next at turn ⊢
  rcases pending with ⟨url, progress⟩
  rw [← about] at different
  simp only at turn here answers ⊢
  cases turn with
  | finds found =>
      rw [tracks.find_eq different here] at found
      exact tracks.finds here (found?_eq_some found)
  | asks missing =>
      rw [tracks.find_eq different here] at missing
      exact tracks.asks here (found?_eq_none missing)
  | fails failed =>
      rw [answers] at failed
      cases failed
  | learns learnt fresh =>
      have missing : course.found? url = none := tracks.fits _ (List.mem_of_getElem? here)
      cases answers.symm.trans learnt
      have isStored : course.isStored url = true := by
        rw [Course.isStored, missing]
        exact fresh
      exact tracks.answers here rfl rfl ⟨isStored, rfl⟩ fun _ => rfl
  | passes learnt stale =>
      have missing : course.found? url = none := tracks.fits _ (List.mem_of_getElem? here)
      cases answers.symm.trans learnt
      apply tracks.answers here rfl rfl
      · simp [Fits, threats, missing]
      · intro isStored
        rw [Course.isStored, missing] at isStored
        cases stale.symm.trans isStored
  | stores verdict => exact tracks.stores here
  | rests result =>
      rcases List.getElem?_eq_some_iff.mp here with ⟨bound, here⟩
      rw [← here, List.set_getElem_self]
      exact tracks

end Turns

theorem tracks_interleave {outside : Outside (StateM World)} {urls : List String}
    {during : World → Prop} {world : World} (governs : course.Governs outside urls during)
    (present : during world) (different : urls.Nodup) (order : List Nat) :
    let moved := interleave outside course.setup order (urls.map fun url => { url }) course.origin
      world
    moved.1.1.map Pending.url = urls ∧ course.Tracks moved.1.1 moved.1.2 := by
  intro moved
  have holds : during moved.2 ∧ moved.1.1.map Pending.url = urls ∧
      course.Tracks moved.1.1 moved.1.2 := by
    apply interleave_keeps (fun batch state world => during world ∧
      batch.map Pending.url = urls ∧ course.Tracks batch state) _ order
      ⟨present, (isFor_start urls).1, tracks_start urls⟩
    rintro batch state world place pending ⟨present, about, tracks⟩ here
    have mem : pending.url ∈ urls := by
      rw [← about]
      exact List.mem_map_of_mem (List.mem_of_getElem? here)
    exact ⟨governs.during_advance mem present pending.progress state,
      (map_url_set here _).trans about, tracks.step governs present different about mem here⟩
  exact holds.2

/-- How a lookup ends that follows the course. -/
def ended (course : Course) (url : String) : Pending :=
  ⟨url, .done (.ok (Verdict.findings (course.threats url) url))⟩

theorem Tracks.concluded {answer : EngineAnswer} (tracks : course.Tracks batch state)
    (concluded : Concluded batch answer) :
    batch = (batch.map Pending.url).map course.ended ∧
      answer = .ok ((batch.map Pending.url).map fun url =>
        Verdict.findings (course.threats url) url) := by
  cases concluded with
  | failed failed =>
      rcases List.exists_of_findSome?_eq_some failed with ⟨⟨url, progress⟩, mem, failure⟩
      have fits := tracks.fits _ mem
      cases progress with
      | waiting | asking | storing => cases failure
      | done result =>
          change result = .ok _ at fits
          rw [fits] at failure
          cases failure
  | @finished results finished =>
      have ended_eq : batch.map (fun pending => course.ended pending.url) = batch := by
        rw [List.map_congr_left, List.map_id]
        intro pending mem
        have progress := List.mem_map_of_mem (f := Pending.progress) mem
        rw [finished] at progress
        rcases List.mem_map.mp progress with ⟨findings, _, done⟩
        have fits := tracks.fits _ mem
        rcases pending with ⟨url, progress⟩
        simp only at done
        subst done
        change Except.ok findings = .ok _ at fits
        rw [ended, id, fits]
      have batch_eq : batch = (batch.map Pending.url).map course.ended := by
        rw [List.map_map]
        exact ended_eq.symm
      refine ⟨batch_eq, congrArg Except.ok ?_⟩
      rw [batch_eq] at finished
      simp only [List.map_map] at finished
      have injective (findings others : List Finding)
          (same : Progress.done (.ok findings) = .done (.ok others)) : findings = others := by
        cases same
        rfl
      rw [← List.map_inj_right injective, ← finished, List.map_map, List.map_map]
      rfl

end Course

/-- The files record the same versions and have the same rows, in whatever order. -/
def SameContents (first second : Cache.File) : Prop :=
  first.versions = second.versions ∧ Option.Rel List.Perm first.rows second.rows

/-- The same answer, the same counters and the same last error, over caches of the same contents. -/
structure SameEnd (first second : EngineAnswer × State) : Prop where
  answer : first.1 = second.1
  byCache : first.2.byCache = second.2.byCache
  byApi : first.2.byApi = second.2.byApi
  failed : first.2.failed = second.2.failed
  lastError : first.2.lastError = second.2.lastError
  contents : SameContents first.2.cache second.2.cache

/-- Tables with the same rows about each link have the same rows. -/
theorem perm_of_filter_eq {rows others : List Cache.Row}
    (same : ∀ url, rows.filter (fun row => row.url = url) =
      others.filter fun row => row.url = url) : rows.Perm others := by
  rw [List.perm_iff_count]
  intro row
  have counted (rows : List Cache.Row) :
      (rows.filter fun other => other.url = row.url).count row = rows.count row :=
    List.count_filter (by simp)
  rw [← counted rows, same, counted others]

theorem rel_perm_of_rowsFor_eq {first second : Cache.File}
    (same : ∀ url, Course.rowsFor url first = Course.rowsFor url second) :
    Option.Rel List.Perm first.rows second.rows := by
  simp only [Course.rowsFor] at same
  cases table : first.rows with
  | none =>
      rw [table] at same
      have gone := Option.map_eq_none_iff.mp (same "").symm
      rw [gone]
      exact .none
  | some rows =>
      rw [table] at same
      rcases Option.map_eq_some_iff.mp (same "").symm with ⟨others, table', _⟩
      rw [table'] at same ⊢
      apply Option.Rel.some
      apply perm_of_filter_eq
      intro url
      exact Option.some.inj (same url)

theorem Course.Tracks.sameEnd {course : Course} {batch : List Pending} {state other : State}
    (tracks : course.Tracks batch state) (others : course.Tracks batch other)
    (answer : EngineAnswer) : SameEnd (answer, state) (answer, other) where
  answer := rfl
  byCache := tracks.byCache.trans others.byCache.symm
  byApi := tracks.byApi.trans others.byApi.symm
  failed := tracks.failed.trans others.failed.symm
  lastError := tracks.lastError.trans others.lastError.symm
  contents := by
    refine ⟨tracks.versions.trans others.versions.symm, rel_perm_of_rowsFor_eq fun url => ?_⟩
    exact (tracks.rows url).trans (others.rows url).symm

/-! ## Batches -/

/-- How a batch goes, whatever the order of its steps: its results belong to its links; it has none
exactly if a call of the API has failed, and then for good; and under a course that is fixed every
order comes to the same end. -/
structure Scheduled (outside : Outside (StateM World)) (setup : Setup) (order : List Nat)
    (urls : List String) (state : State) (world : World) : Prop where
  aligned : ∀ results, (lookupTogether outside setup order urls state world).1.1 = .ok results →
    List.Forall₂ (fun url findings => ∀ finding ∈ findings, finding.url = url) urls results
  fails : (∃ error, (lookupTogether outside setup order urls state world).1.1 = .error error) ↔
    state.failed < (lookupTogether outside setup order urls state world).1.2.failed
  fails_early : ∀ taken rest, order = taken ++ rest → ∀ pending ∈
    (interleave outside setup taken (urls.map fun url => { url }) state world).1.1,
      pending.failure?.isSome = true →
        ∃ error, (lookupTogether outside setup order urls state world).1.1 = .error error
  independent : urls.Nodup → ∀ now api,
    ∀ during : World → Prop, during world →
      Course.Governs ⟨setup, state, now, api⟩ outside urls during →
      (∀ other, SameEnd (lookupTogether outside setup order urls state world).1
        (lookupTogether outside setup other urls state world).1) ∧
      SameEnd (lookupTogether outside setup order urls state world).1
        (lookupAll outside setup urls state world).1

section Batches

variable {outside : Outside (StateM World)} {setup : Setup} {order : List Nat}
  {urls : List String} {state : State} {world : World}

theorem countP_hasFailed_start (urls : List String) :
    (urls.map fun url => ({ url } : Pending)).countP Pending.hasFailed = 0 := by
  simp [List.countP_map, Function.comp_def, Pending.hasFailed, Pending.failure?]

theorem aligned_lookupTogether {results : List (List Finding)}
    (answer : (lookupTogether outside setup order urls state world).1.1 = .ok results) :
    List.Forall₂ (fun url findings => ∀ finding ∈ findings, finding.url = url) urls results := by
  rcases lookupTogether_eq outside setup order urls state world with
    ⟨tail, ended, taken, concluded⟩
  have isFor := isFor_interleave outside setup (order ++ tail) urls state world
  rw [taken] at isFor
  rw [answer] at concluded
  exact isFor.aligned concluded

theorem fails_lookupTogether_iff :
    (∃ error, (lookupTogether outside setup order urls state world).1.1 = .error error) ↔
      state.failed < (lookupTogether outside setup order urls state world).1.2.failed := by
  rcases lookupTogether_eq outside setup order urls state world with
    ⟨tail, ended, taken, concluded⟩
  have counted := failed_interleave outside setup (order ++ tail) (urls.map fun url => { url })
    state world
  rw [taken, countP_hasFailed_start] at counted
  simp only at counted
  rw [concluded.isError_iff]
  omega

theorem fails_of_failure {taken rest : List Nat} {pending : Pending}
    (order_eq : order = taken ++ rest)
    (mem : pending ∈
      (interleave outside setup taken (urls.map fun url => { url }) state world).1.1)
    (failure : pending.failure?.isSome = true) :
    state.failed < (lookupTogether outside setup order urls state world).1.2.failed := by
  rcases lookupTogether_eq outside setup order urls state world with ⟨tail, ended, moved, _⟩
  have counted := failed_interleave outside setup taken (urls.map fun url => { url }) state world
  have later := failed_le_interleave outside setup (rest ++ tail)
    (interleave outside setup taken (urls.map fun url => { url }) state world).1.1
    (interleave outside setup taken (urls.map fun url => { url }) state world).1.2
    (interleave outside setup taken (urls.map fun url => { url }) state world).2
  have some : 0 < List.countP Pending.hasFailed
      (interleave outside setup taken (urls.map fun url => { url }) state world).1.1 :=
    List.countP_pos_iff.mpr ⟨pending, mem, failure⟩
  rw [order_eq, List.append_assoc, interleave_append] at moved
  rw [moved, ← order_eq] at later
  rw [countP_hasFailed_start] at counted
  simp only at counted later
  omega

theorem sameEnd_lookupTogether {course : Course} {during : World → Prop}
    (governs : course.Governs outside urls during) (present : during world)
    (different : urls.Nodup) (order other : List Nat) :
    SameEnd (lookupTogether outside course.setup order urls course.origin world).1
      (lookupTogether outside course.setup other urls course.origin world).1 := by
  have ends (order : List Nat) :
      (lookupTogether outside course.setup order urls course.origin world).1.1 =
          .ok (urls.map fun url => Verdict.findings (course.threats url) url) ∧
        course.Tracks (urls.map course.ended)
          (lookupTogether outside course.setup order urls course.origin world).1.2 := by
    rcases lookupTogether_eq outside course.setup order urls course.origin world with
      ⟨tail, ended, taken, concluded⟩
    have tracked := Course.tracks_interleave governs present different (order ++ tail)
    rw [taken] at tracked
    rcases tracked with ⟨about, tracks⟩
    rcases tracks.concluded concluded with ⟨ended_eq, answer⟩
    simp only at about
    rw [about] at ended_eq answer
    exact ⟨answer, ended_eq ▸ tracks⟩
  rcases ends order with ⟨answer, tracks⟩
  rcases ends other with ⟨otherAnswer, others⟩
  have same := tracks.sameEnd others (.ok (urls.map fun url =>
    Verdict.findings (course.threats url) url))
  exact ⟨answer.trans otherAnswer.symm, same.byCache, same.byApi, same.failed, same.lastError,
    same.contents⟩

/-- A batch is aligned, all or nothing, and independent of the order of its steps. -/
theorem scheduled_lookupTogether (outside : Outside (StateM World)) (setup : Setup)
    (order : List Nat) (urls : List String) (state : State) (world : World) :
    Scheduled outside setup order urls state world where
  aligned _ := aligned_lookupTogether
  fails := fails_lookupTogether_iff
  fails_early _ _ order_eq _ mem failure :=
    fails_lookupTogether_iff.mpr (fails_of_failure order_eq mem failure)
  independent different now api during present governs := by
    have same (other : List Nat) := sameEnd_lookupTogether governs present different order other
    refine ⟨same, ?_⟩
    rw [← lookupTogether_nil]
    exact same []

/-- Of two links the second one is looked up first. Its row is then behind that of the other one,
but everything else is as if they had been looked up one after another. -/
theorem scheduled_lookupTogether_pair :
    ∃ (outside : Outside (StateM Unit)) (setup : Setup) (state : State),
      (lookupTogether outside setup [1, 1, 1] ["a", "b"] state ()).1.2.cache ≠
        (lookupAll outside setup ["a", "b"] state ()).1.2.cache ∧
      SameEnd (lookupTogether outside setup [1, 1, 1] ["a", "b"] state ()).1
        (lookupAll outside setup ["a", "b"] state ()).1 := by
  let setup : Setup := ⟨⟨{ scheme := "https" }, "key", [], false⟩, .ofSeconds 3600, .zero⟩
  let state : State := { cache := { rows := some [] } }
  let reply : Reply := .response 200
    (some (Utf8.encode "\x7b\"threat\":\x7b\"threatTypes\":[\"malware\"]\x7d\x7d"))
  let outside : Outside (StateM Unit) :=
    ⟨fun world => (⟨0, 0⟩, world), fun _ world => (reply, world)⟩
  refine ⟨outside, setup, state, by decide +kernel, ?_⟩
  have answers (url : String) :
      setup.client.interpret url reply = .ok (.ofReport (some ⟨["malware"], none⟩)) := by
    apply Client.interpret_read
    · decide
    · decide
    · apply eq_ok_of_toOption
      decide +kernel
  have governs : Course.Governs
      ⟨setup, state, ⟨0, 0⟩, fun _ => .ofReport (some ⟨["malware"], none⟩)⟩ outside ["a", "b"]
      (fun _ => True) :=
    ⟨fun _ => ⟨rfl, trivial⟩, fun {url _} _ _ => ⟨answers url, trivial⟩⟩
  exact ((scheduled_lookupTogether outside setup [1, 1, 1] ["a", "b"] state ()).independent
    (by decide) ⟨0, 0⟩ _ (fun _ => True) trivial governs).2

end Batches

end LinkGuard.Remote
