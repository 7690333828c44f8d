import LinkGuard.Proofs.Cache.History
import LinkGuard.Proofs.Remote.History

/-!
# Engines with different subscriptions over one cache file

An engine asks the API about the threats that it subscribes to, and a cache file may be opened by
one engine after another, each with a subscription of its own. The rows are found by their links
alone, so an engine serves what another one has stored, whatever that one had asked about. We
say whose subscription an answer belongs to: that of the engine itself if it has asked the API, and
otherwise that of the engine through which a verdict about the link was stored last. So the answers
are those for the engine's own subscription as long as all engines subscribe to the same threats.

Nothing is needed of the clock here. A row that is served is one that was stored, no matter when.
-/

namespace LinkGuard.Remote

/-- What happens to a cache file: an engine opens it, or looks up a link through it, or purges it.
Of the state of an engine the cache alone is shared. -/
inductive Access where
  | opening
  | lookup (setup : Setup) (engine : State) (url : String) (asked : Instant) (reply : Reply)
      (answered : Instant)
  | purge (now : Instant)

/-- A cache file, and the links whose verdicts have been stored, each with the subscription of the
engine that has asked, the last one first. A new file has been opened once. -/
structure Shelf where
  file : Cache.File := (Cache.File.migrate {}).1
  stored : List (String × List Threat) := []

/-- The reply is an answer with the threats that the API has for the link and the subscription, or
it is none. -/
def Setup.Hears (setup : Setup) (api : String → List Threat → List Threat) (url : String)
    (reply : Reply) : Prop :=
  ∀ answer, setup.client.interpret url reply = .ok answer →
    answer.threats = api url setup.client.threats

namespace Access

/-- The API is a function of the link and the subscription. It may fail to answer, and it may say
anything about how long its answers hold. -/
def Hears (api : String → List Threat → List Threat) : Access → Prop
  | lookup setup _ url _ reply _ => setup.Hears api url reply
  | opening | purge _ => True

/-- The lookups of a link come from engines with the subscription. -/
def Subscribes (url : String) (subscription : List Threat) : Access → Prop
  | lookup setup _ link _ _ _ => link = url → setup.client.threats = subscription
  | opening | purge _ => True

/-- The file afterwards. -/
def fileAfter (file : Cache.File) : Access → Cache.File
  | opening => file.migrate.1
  | lookup setup engine url asked reply answered =>
    (look setup url asked reply answered { engine with cache := file }).2.cache
  | purge now => (State.purge now { cache := file }).2.cache

/-- The link and the subscription, if a lookup asks the API and has a verdict to store then. -/
def stores? (file : Cache.File) : Access → Option (String × List Threat)
  | lookup setup engine url asked reply answered =>
    let state := { engine with cache := file }
    match (look setup url asked reply answered state).1.fetched,
        (state.receive setup url reply answered).1 with
    | _ :: _, .storing _ => some (url, setup.client.threats)
    | _, _ => none
  | opening | purge _ => none

end Access

namespace Shelf

/-- One access to the file. -/
def step (shelf : Shelf) (access : Access) : Shelf where
  file := access.fileAfter shelf.file
  stored := (access.stores? shelf.file).toList ++ shelf.stored

/-- A new file after these accesses, in order. -/
def after (accesses : List Access) : Shelf :=
  accesses.foldl step {}

/-- The subscription with which a verdict about the link was stored last. -/
def subscription? (shelf : Shelf) (url : String) : Option (List Threat) :=
  (shelf.stored.find? fun stored => stored.1 = url).map Prod.snd

end Shelf

section Lookups

variable {setup : Setup} {url : String} {asked answered : Instant} {reply : Reply} {state : State}
  {rows : List Cache.Row}

/-- What a lookup does with a file that has a table: it serves a row, or it asks and leaves the
table as it is, or it asks and puts the row of its verdict into the table. -/
inductive LooksUp (setup : Setup) (url : String) (reply : Reply) (answered : Instant)
    (state : State) (rows : List Cache.Row) : Looked × State → Prop
  | serves {row : Cache.Row} {threats : List Threat} {after : State} (mem : row ∈ rows)
      (isLink : row.url = url) (read : Cache.readThreats row.threats = .ok threats)
      (cache : after.cache = state.cache) :
      LooksUp setup url reply answered state rows
        (⟨.ok [Verdict.findings threats url], []⟩, after)
  | passes {after : State} (cache : after.cache = state.cache)
      (unstored : ∀ verdict, (state.receive setup url reply answered).1 ≠ .storing verdict) :
      LooksUp setup url reply answered state rows
        (⟨setup.client.answerOf url reply, [setup.client.requestUrl url]⟩, after)
  | stores {verdict : Verdict} {answer : Answer} {after : State}
      (interpreted : setup.client.interpret url reply = .ok answer)
      (storing : (state.receive setup url reply answered).1 = .storing verdict)
      (isLink : verdict.url = url) (threats : verdict.threats = answer.threats)
      (cache : after.cache =
        { state.cache with rows := some (Cache.replaceRow (.ofVerdict verdict) rows) }) :
      LooksUp setup url reply answered state rows
        (⟨setup.client.answerOf url reply, [setup.client.requestUrl url]⟩, after)

theorem look_cases (asked : Instant) (table : state.cache.rows = some rows) :
    LooksUp setup url reply answered state rows (look setup url asked reply answered state) := by
  by_cases found : ∃ verdict, state.cache.find url asked asked = .ok (some verdict)
  · rcases found with ⟨verdict, found⟩
    rcases Cache.File.exists_row_of_find table found with ⟨row, mem, isLink, read⟩
    rw [look_found found]
    exact .serves mem isLink read rfl
  · rw [look_missing (not_exists.mp found), State.conclude]
    rcases State.receive_cases setup url reply answered { state with byApi := state.byApi + 1 } with
      ⟨result, after, received, cache⟩ |
        ⟨verdict, after, answer, received, cache, interpreted, isLink, threats⟩
    · simp only [received]
      refine .passes cache fun verdict storing => ?_
      rw [State.receive_congr _ _ _ _ state { state with byApi := state.byApi + 1 }, received]
        at storing
      cases storing
    · simp only [received]
      have storing : (state.receive setup url reply answered).1 = .storing verdict := by
        rw [State.receive_congr _ _ _ _ state { state with byApi := state.byApi + 1 }, received]
      have table' : after.cache.rows = some rows := by
        rw [cache]
        exact table
      rw [State.keep, State.kept_eq, Cache.File.put_eq table']
      refine .stores interpreted storing isLink threats ?_
      rw [cache]
      rfl

end Lookups

section Runs

variable {api : String → List Threat → List Threat} {shelf : Shelf} {access : Access}

/-- Every row of the file has the threats that the API has for its link and for the subscription
with which a verdict about this link was stored last. -/
def Shelf.Sound (api : String → List Threat → List Threat) (shelf : Shelf) : Prop :=
  ∃ rows, shelf.file = ⟨some [Cache.currentVersion], some rows⟩ ∧
    ∀ row ∈ rows, ∃ threats, shelf.subscription? row.url = some threats ∧
      Cache.readThreats row.threats = .ok (api row.url threats)

theorem Shelf.sound_start (api : String → List Threat → List Threat) :
    ({} : Shelf).Sound api :=
  ⟨[], rfl, nofun⟩

theorem Shelf.subscription?_cons (file : Cache.File) (url link : String)
    (subscription : List Threat) (stored : List (String × List Threat)) :
    Shelf.subscription? ⟨file, (url, subscription) :: stored⟩ link =
      if url = link then some subscription else Shelf.subscription? ⟨file, stored⟩ link := by
  rw [subscription?, List.find?_cons]
  split
  case h_1 same =>
    rw [if_pos (of_decide_eq_true same)]
    rfl
  case h_2 different =>
    rw [if_neg (of_decide_eq_false different)]
    rfl

/-- A lookup keeps the invariant, since it stores what the API has for its own subscription. -/
theorem Shelf.Sound.lookup {setup : Setup} {engine : State} {url : String}
    {asked answered : Instant} {reply : Reply} (sound : shelf.Sound api)
    (hears : setup.Hears api url reply) :
    (shelf.step (.lookup setup engine url asked reply answered)).Sound api := by
  rcases sound with ⟨rows, file_eq, sound⟩
  have looked : LooksUp setup url reply answered { engine with cache := shelf.file } rows
      (look setup url asked reply answered { engine with cache := shelf.file }) :=
    look_cases asked (congrArg Cache.File.rows file_eq)
  rw [step, Access.fileAfter, Access.stores?]
  generalize look setup url asked reply answered { engine with cache := shelf.file } = outcome
    at looked
  cases looked with
  | serves mem isLink read cache =>
      refine ⟨rows, ?_, sound⟩
      exact cache.trans file_eq
  | passes cache unstored =>
      refine ⟨rows, cache.trans file_eq, ?_⟩
      dsimp only
      split
      case h_1 verdict _ storing => exact absurd storing (unstored verdict)
      case h_2 => exact sound
  | @stores verdict answer _ interpreted storing isLink threats cache =>
      refine ⟨Cache.replaceRow (.ofVerdict verdict) rows, ?_, ?_⟩
      · rw [file_eq] at cache
        exact cache
      · simp only [storing, Option.toList_some, List.singleton_append]
        intro row mem
        rw [subscription?_cons]
        rcases List.mem_cons.mp mem with rfl | mem
        · have row_url : (Cache.Row.ofVerdict verdict).url = url := isLink
          rw [row_url, if_pos rfl]
          refine ⟨_, rfl, (Cache.readThreats_listToJson verdict.threats).trans ?_⟩
          rw [threats, hears answer interpreted]
        · have other := of_decide_eq_true (List.mem_filter.mp mem).2
          rw [if_neg fun same => other (same.symm.trans isLink.symm)]
          exact sound row (List.mem_filter.mp mem).1

theorem Shelf.Sound.step (sound : shelf.Sound api) (hears : access.Hears api) :
    (shelf.step access).Sound api := by
  cases access with
  | opening =>
      rcases sound with ⟨rows, file_eq, sound⟩
      refine ⟨rows, ?_, sound⟩
      change shelf.file.migrate.1 = _
      rw [file_eq]
      rfl
  | purge now =>
      rcases sound with ⟨rows, file_eq, sound⟩
      refine ⟨rows.filter (Cache.Row.isFresh now), ?_, fun row mem =>
        sound row (List.mem_filter.mp mem).1⟩
      change (State.purge now { cache := shelf.file }).2.cache = _
      rw [file_eq]
      rfl
  | lookup setup engine url asked reply answered => exact sound.lookup hears

theorem Shelf.Sound.after {accesses : List Access}
    (hears : ∀ access ∈ accesses, access.Hears api) : (Shelf.after accesses).Sound api := by
  apply List.foldlRecOn accesses Shelf.step (sound_start api)
  intro shelf sound access mem
  exact sound.step (hears access mem)

/-- A subscription is stored with a link only by a lookup of the link. -/
theorem Access.subscription_of_stores? {file : Cache.File} {url : String}
    {own subscription : List Threat} (stores : access.stores? file = some (url, subscription))
    (subscribes : access.Subscribes url own) : subscription = own := by
  cases access with
  | opening => cases stores
  | purge now => cases stores
  | lookup setup engine link asked reply answered =>
      rw [stores?] at stores
      split at stores
      case h_1 =>
        cases stores
        exact subscribes rfl
      case h_2 => cases stores

theorem Shelf.subscription?_after {accesses : List Access} {url : String}
    {own subscription : List Threat} (subscribes : ∀ access ∈ accesses, access.Subscribes url own)
    (last : (Shelf.after accesses).subscription? url = some subscription) : subscription = own := by
  have alike : ∀ subscription, (url, subscription) ∈ (after accesses).stored →
      subscription = own := by
    apply List.foldlRecOn (motive := fun shelf : Shelf => ∀ subscription,
      (url, subscription) ∈ shelf.stored → subscription = own) accesses Shelf.step
    · intro subscription stored
      cases stored
    · intro shelf alike access mem subscription stored
      rcases List.mem_append.mp stored with new | old
      · have stores := Option.mem_toList.mp new
        exact Access.subscription_of_stores? stores (subscribes access mem)
      · exact alike subscription old
  rcases Option.map_eq_some_iff.mp last with ⟨⟨link, subscription⟩, found, rfl⟩
  have isLink := List.find?_some found
  cases of_decide_eq_true isLink
  exact alike subscription (List.mem_of_find?_eq_some found)

/-- After any lookups of engines over one cache file, a successful lookup gives what the API has for
its link and for one subscription: its own if it asks the API, and otherwise the one with which a
verdict about the link was stored last. If all lookups of the link have the same subscription, this
is its own. -/
theorem findings_of_look {accesses : List Access} (hears : ∀ access ∈ accesses, access.Hears api)
    {setup : Setup} {url : String} (asked : Instant) {reply : Reply} (answered : Instant)
    (replied : setup.Hears api url reply) (state : State)
    (shared : state.cache = (Shelf.after accesses).file) {results : List (List Finding)}
    (success : (look setup url asked reply answered state).1.answer = .ok results) :
    (∃ subscription, results = [Verdict.findings (api url subscription) url] ∧
      ((look setup url asked reply answered state).1.fetched = [setup.client.requestUrl url] ∧
          subscription = setup.client.threats ∨
        (look setup url asked reply answered state).1.fetched = [] ∧
          (Shelf.after accesses).subscription? url = some subscription)) ∧
    ((∀ access ∈ accesses, access.Subscribes url setup.client.threats) →
      results = [Verdict.findings (api url setup.client.threats) url]) := by
  rcases Shelf.Sound.after hears with ⟨rows, file_eq, sound⟩
  have looked : LooksUp setup url reply answered state rows
      (look setup url asked reply answered state) := by
    apply look_cases asked
    rw [shared, file_eq]
  have own (answer : setup.client.answerOf url reply = .ok results) :
      results = [Verdict.findings (api url setup.client.threats) url] := by
    rw [Client.answerOf] at answer
    split at answer
    case h_1 heard interpreted =>
      cases answer
      rw [replied heard interpreted]
    case h_2 => cases answer
  generalize look setup url asked reply answered state = outcome at looked success
  cases looked with
  | serves mem isLink read cache =>
      cases success
      rcases sound _ mem with ⟨subscription, last, row_threats⟩
      cases read.symm.trans row_threats
      rw [isLink] at last ⊢
      refine ⟨⟨subscription, rfl, .inr ⟨rfl, last⟩⟩, fun subscribes => ?_⟩
      rw [Shelf.subscription?_after subscribes last]
  | passes cache unstored =>
      exact ⟨⟨_, own success, .inl ⟨rfl, rfl⟩⟩, fun _ => own success⟩
  | stores interpreted storing isLink threats cache =>
      exact ⟨⟨_, own success, .inl ⟨rfl, rfl⟩⟩, fun _ => own success⟩

theorem Setup.hears_of_interpret {setup : Setup} {url : String} {reply : Reply} {answer : Answer}
    (interpreted : setup.client.interpret url reply = .ok answer)
    (threats : answer.threats = api url setup.client.threats) : setup.Hears api url reply := by
  intro heard same
  cases interpreted.symm.trans same
  exact threats

end Runs

/-- An engine that subscribes to malware, as the one before it did, serves what that one has
stored. -/
theorem findings_of_look_malware :
    ∃ (setup : Setup) (api : String → List Threat → List Threat) (body : List UInt8),
      let before := [.lookup setup { cache := {} } "u" ⟨0, 0⟩ (.response 200 (some body)) ⟨0, 0⟩]
      (∀ access ∈ before, access.Hears api) ∧ setup.Hears api "u" .unreachable ∧
      (∀ access ∈ before, access.Subscribes "u" setup.client.threats) ∧
      (look setup "u" ⟨60, 0⟩ .unreachable ⟨60, 0⟩
        { cache := (Shelf.after before).file }).1.answer =
          .ok [Verdict.findings (api "u" setup.client.threats) "u"] := by
  have served : ∃ (setup : Setup) (body : List UInt8),
      setup.client.searchUrl.scheme ∈ fetchedSchemes ∧
      setup.client.interpret "u" (.response 200 (some body)) = .ok ⟨[.malware], none⟩ ∧
      (look setup "u" ⟨60, 0⟩ .unreachable ⟨60, 0⟩ { cache := (Shelf.after
        [.lookup setup { cache := {} } "u" ⟨0, 0⟩ (.response 200 (some body)) ⟨0, 0⟩]).file
        }).1.answer = .ok [[⟨.malware, "u"⟩]] := by
    refine ⟨⟨⟨{ scheme := "https" }, "key", [.malware], false⟩, .ofSeconds 3600, .ofSeconds 3600⟩,
      Utf8.encode "\x7b\"threat\":\x7b\"threatTypes\":[\"MALWARE\"]\x7d\x7d", by decide, ?_, ?_⟩
    · apply eq_ok_of_toOption
      decide +kernel
    · apply eq_ok_of_toOption
      decide +kernel
  rcases served with ⟨setup, body, fetched, interpreted, success⟩
  have hears : ∀ access ∈
      [.lookup setup { cache := {} } "u" ⟨0, 0⟩ (.response 200 (some body)) ⟨0, 0⟩],
      Access.Hears (fun _ _ => [.malware]) access := by
    intro access mem
    cases List.mem_singleton.mp mem
    have heard : setup.Hears (fun _ _ => [.malware]) "u" (.response 200 (some body)) :=
      Setup.hears_of_interpret interpreted rfl
    exact heard
  have replied : setup.Hears (fun _ _ => [.malware]) "u" .unreachable := by
    intro answer heard
    rw [Client.interpret_unreachable fetched] at heard
    cases heard
  have subscribes : ∀ access ∈
      [.lookup setup { cache := {} } "u" ⟨0, 0⟩ (.response 200 (some body)) ⟨0, 0⟩],
      Access.Subscribes "u" setup.client.threats access := by
    intro access mem
    cases List.mem_singleton.mp mem
    exact fun _ => rfl
  rcases findings_of_look hears ⟨60, 0⟩ ⟨60, 0⟩ replied { cache := (Shelf.after _).file } rfl
    success with ⟨_, own⟩
  exact ⟨setup, _, body, hears, replied, subscribes,
    success.trans (congrArg Except.ok (own subscribes))⟩

/-- An engine that subscribes to malware calls a link safe that the API reports malware for, since
one that subscribes to something else has stored that it is safe. -/
theorem other_subscription_looks_safe :
    ∃ (own other : Setup) (api : String → List Threat → List Threat) (safe malware : List UInt8),
      let before := [.lookup other { cache := {} } "u" ⟨0, 0⟩ (.response 200 (some safe)) ⟨0, 0⟩]
      (∀ access ∈ before, access.Hears api) ∧
      own.Hears api "u" (.response 200 (some malware)) ∧
      api "u" own.client.threats = [.malware] ∧
      (look own "u" ⟨60, 0⟩ (.response 200 (some malware)) ⟨60, 0⟩
        { cache := (Shelf.after before).file }).1.answer = .ok [[]] := by
  have served : ∃ (own other : Setup) (safe malware : List UInt8),
      own.client.threats = [.malware] ∧ other.client.threats = [.socialEngineering] ∧
      other.client.interpret "u" (.response 200 (some safe)) = .ok ⟨[], none⟩ ∧
      own.client.interpret "u" (.response 200 (some malware)) = .ok ⟨[.malware], none⟩ ∧
      (look own "u" ⟨60, 0⟩ (.response 200 (some malware)) ⟨60, 0⟩ { cache := (Shelf.after
        [.lookup other { cache := {} } "u" ⟨0, 0⟩ (.response 200 (some safe)) ⟨0, 0⟩]).file
        }).1.answer = .ok [[]] := by
    refine ⟨⟨⟨{ scheme := "https" }, "key", [.malware], false⟩, .ofSeconds 3600, .ofSeconds 3600⟩,
      ⟨⟨{ scheme := "https" }, "key", [.socialEngineering], false⟩, .ofSeconds 3600,
        .ofSeconds 3600⟩,
      Utf8.encode "\x7b\x7d",
      Utf8.encode "\x7b\"threat\":\x7b\"threatTypes\":[\"MALWARE\"]\x7d\x7d", rfl, rfl, ?_, ?_, ?_⟩
    · apply eq_ok_of_toOption
      decide +kernel
    · apply eq_ok_of_toOption
      decide +kernel
    · apply eq_ok_of_toOption
      decide +kernel
  rcases served with ⟨own, other, safe, malware, own_eq, other_eq, nothing, reported, answer⟩
  let api (_ : String) (subscription : List Threat) : List Threat :=
    subscription.filter (· = .malware)
  have other_hears : other.Hears api "u" (.response 200 (some safe)) := by
    apply Setup.hears_of_interpret nothing
    rw [other_eq]
    rfl
  have own_hears : own.Hears api "u" (.response 200 (some malware)) := by
    apply Setup.hears_of_interpret reported
    rw [own_eq]
    rfl
  refine ⟨own, other, api, safe, malware, fun access mem => ?_, own_hears, ?_, answer⟩
  · cases List.mem_singleton.mp mem
    exact other_hears
  · rw [own_eq]
    rfl

end LinkGuard.Remote
