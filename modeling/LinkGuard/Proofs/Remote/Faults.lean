import LinkGuard.Proofs.Remote.History
import LinkGuard.Proofs.Remote.Overtaking

/-!
# Failing caches and failing requests

The two things that a lookup relies on fail in opposite ways. Whatever keeps the cache from
answering, be it a row that cannot be read back, a missing table or a fault of the moment, the API
is asked instead, and whatever keeps the cache from storing is passed over. Whatever keeps the API
from answering fails the lookup, so that nobody is told that nothing is known against a link.

A row that cannot be read back is in the way only until an answer can be stored. The row of the
answer takes its place, and lookups of the link are served from it while it is fresh.
-/

namespace LinkGuard.Remote

/-- One lookup: its link, the faults that the cache has meanwhile, and what surrounds it. -/
structure Attempt where
  url : String
  faults : Faults := {}
  asked : Instant
  reply : Reply
  answered : Instant

/-- What an attempt comes to. -/
structure Attempted where
  result : Except EngineError (List Finding)
  fetched : List Url
  state : State

/-- The cache can be read, and it has a row for the link that is fresh and gives these threats. -/
def Attempt.IsServed (attempt : Attempt) (cache : Cache.File) (threats : List Threat) : Prop :=
  attempt.faults.reading = none ∧ ∃ rows row, cache.rows = some rows ∧
    rows.find? (Cache.Row.answers attempt.url attempt.asked) = some row ∧
    row.expiry ≤ Cache.greatestStored ∧ Cache.readThreats row.threats = .ok threats

/-- The cache can be read, and this happens before the expiry in whole milliseconds. -/
def Attempt.IsInTime (attempt : Attempt) (expiry : Instant) : Prop :=
  attempt.faults.reading = none ∧ attempt.asked.milliseconds < expiry.milliseconds

/-- The reply is a success and its body is a report. -/
def Client.Answers (client : Client) (reply : Reply) (report : Option Report) : Prop :=
  client.searchUrl.scheme ∈ fetchedSchemes ∧ ∃ status body, (200 ≤ status ∧ status < 300) ∧
    reply = .response status (some body) ∧ Json.Read.body bodyShape.read body = .ok report

/-- The known threats of a report, in its order. -/
def Report.known (report : Option Report) : List Threat :=
  (report.elim [] Report.names).filterMap Threat.ofName?

namespace Attempt

/-- Makes an attempt on an engine. -/
def run (setup : Setup) (attempt : Attempt) (state : State) : Attempted :=
  let looked := lookupOver attempt.faults .scripted setup attempt.url state
    { asked := attempt.asked, reply := attempt.reply, answered := attempt.answered }
  ⟨looked.1.1, looked.2.fetched, looked.1.2⟩

/-- Makes attempts one after another. -/
def runAll (setup : Setup) (attempts : List Attempt) (state : State) : State :=
  attempts.foldl (fun state attempt => (attempt.run setup state).state) state

end Attempt

section Ways

variable {setup : Setup} {attempt : Attempt} {state : State} {answer : Answer}
  {report : Option Report} {threats : List Threat}

namespace Attempt

theorem run_found {verdict : Verdict}
    (found : attempt.faults.find attempt.url attempt.asked state.cache = .ok (some verdict)) :
    attempt.run setup state =
      ⟨.ok (Verdict.findings verdict.threats attempt.url), [],
        { state with byCache := state.byCache + 1 }⟩ := by
  have looked : lookupOver attempt.faults .scripted setup attempt.url state
      { asked := attempt.asked, reply := attempt.reply, answered := attempt.answered } = _ :=
    lookupOver_found found
  rw [run, looked]
  rfl

theorem run_missing
    (missing : ∀ verdict, attempt.faults.find attempt.url attempt.asked state.cache ≠
      .ok (some verdict)) :
    let concluded := State.concludeOver attempt.faults setup attempt.url attempt.reply
      attempt.answered { state with byApi := state.byApi + 1 }
    attempt.run setup state =
      ⟨concluded.1, [setup.client.requestUrl attempt.url], concluded.2⟩ := by
  have looked : lookupOver attempt.faults .scripted setup attempt.url state
      { asked := attempt.asked, reply := attempt.reply, answered := attempt.answered } = _ :=
    lookupOver_missing missing
  rw [run, looked]
  simp [Outside.scripted]

theorem IsServed.found (served : attempt.IsServed state.cache threats) :
    ∃ verdict, attempt.faults.find attempt.url attempt.asked state.cache = .ok (some verdict) ∧
      verdict.threats = threats := by
  rcases served with ⟨works, rows, row, table, answering, storable, read⟩
  refine ⟨⟨row.url, threats, (Instant.ofMilliseconds? row.expiry).getD attempt.asked⟩, ?_, rfl⟩
  simp only [Faults.find, works, Cache.File.find_eq table, answering, Cache.Row.verdict,
    if_neg (Int.not_lt.mpr storable), read]
  rfl

theorem isServed_of_found {verdict : Verdict}
    (found : attempt.faults.find attempt.url attempt.asked state.cache = .ok (some verdict)) :
    attempt.IsServed state.cache verdict.threats := by
  cases works : attempt.faults.reading with
  | some error =>
      simp only [Faults.find, works] at found
      cases found
  | none =>
      simp only [Faults.find, works] at found
      cases table : state.cache.rows with
      | none => exact absurd found (Cache.File.find_of_none table verdict)
      | some rows =>
          rw [Cache.File.find_eq table] at found
          split at found
          case h_1 row answering =>
            cases read : row.verdict attempt.asked with
            | error error =>
                rw [read] at found
                cases found
            | ok given =>
                rw [read] at found
                cases found
                refine ⟨works, rows, row, table, answering, ?_,
                  Cache.Row.readThreats_of_verdict read⟩
                rw [Cache.Row.verdict] at read
                split at read
                case isTrue => cases read
                case isFalse inRange => exact Int.not_lt.mp inRange
          case h_2 => cases found

theorem missing_of_not_isServed (unserved : ∀ threats, ¬ attempt.IsServed state.cache threats)
    (verdict : Verdict) :
    attempt.faults.find attempt.url attempt.asked state.cache ≠ .ok (some verdict) := by
  intro found
  exact unserved verdict.threats (isServed_of_found found)

end Attempt

theorem Client.Answers.interpret {client : Client} {reply : Reply}
    (answers : client.Answers reply report) (url : String) :
    client.interpret url reply = .ok (.ofReport report) := by
  rcases answers with ⟨fetched, status, body, success, rfl, read⟩
  exact interpret_read fetched url success read

theorem Client.exists_answers {client : Client} {url : String} {reply : Reply}
    (interpreted : client.interpret url reply = .ok answer) :
    ∃ report, client.Answers reply report := by
  by_cases fetched : client.searchUrl.scheme ∈ fetchedSchemes
  · cases reply with
    | unreachable =>
        rw [interpret_unreachable fetched] at interpreted
        cases interpreted
    | response status body =>
        rw [interpret_response fetched] at interpreted
        split at interpreted
        case isFalse => cases interpreted
        case isTrue success =>
          split at interpreted
          case h_2 => cases interpreted
          case h_1 found read? =>
            rcases Option.bind_eq_some_iff.mp read? with ⟨bytes, rfl, read⟩
            rw [Answer.read?] at read
            split at read
            case h_1 report whole => exact ⟨report, fetched, status, bytes, success, rfl, whole⟩
            case h_2 => cases read
  · rw [interpret_unfetched fetched] at interpreted
    cases interpreted

theorem Answer.threats_ofReport (report : Option Report) :
    (Answer.ofReport report).threats = Report.known report := by
  cases report <;> rfl

end Ways

section Stored

variable {setup : Setup} {attempt other : Attempt} {state : State} {answer : Answer}
  {cache : Cache.File} {url : String} {verdict : Verdict}

theorem rememberOver_works {faults : Faults} (works : faults.writing = none) (setup : Setup)
    (url : String) (answer : Answer) (now : Instant) (cache : Cache.File) :
    State.rememberOver faults setup url answer now cache =
      State.remember setup url answer now cache := by
  simp only [State.rememberOver, State.remember, Faults.put, works]

theorem rememberOver_fails {faults : Faults} {error : Cache.Error}
    (fails : faults.writing = some error) (setup : Setup) (url : String) (answer : Answer)
    (now : Instant) (cache : Cache.File) :
    State.rememberOver faults setup url answer now cache = cache := by
  simp [State.rememberOver, Faults.put, fails, Except.toOption]

/-- A row for the link that is fresh is served, if it has an expiry that can be read back. -/
theorem Holds.isServed (holds : Holds cache attempt.url verdict)
    (works : attempt.faults.reading = none)
    (storable : verdict.expiry.milliseconds ≤ Cache.greatestStored)
    (fresh : attempt.asked.milliseconds < verdict.expiry.milliseconds) :
    attempt.IsServed cache verdict.threats := by
  rcases holds with ⟨rows, table, rows_eq⟩
  have answering : rows.find? (Cache.Row.answers attempt.url attempt.asked) =
      some (.ofVerdict verdict) := by
    rw [Cache.find?_answers_eq, rows_eq, List.find?_singleton, if_pos]
    exact Cache.Row.isFresh_iff.mpr fresh
  exact ⟨works, rows, .ofVerdict verdict, table, answering, storable,
    Cache.readThreats_listToJson verdict.threats⟩

/-- A stored verdict stays in its place until a lookup of its link is not served from it. -/
theorem Holds.stays (holds : Holds state.cache url verdict)
    (storable : verdict.expiry.milliseconds ≤ Cache.greatestStored)
    (inTime : other.url = url → other.IsInTime verdict.expiry) :
    Holds (other.run setup state).state.cache url verdict := by
  by_cases found : ∃ given, other.faults.find other.url other.asked state.cache = .ok (some given)
  · rcases found with ⟨given, found⟩
    rw [Attempt.run_found found]
    exact holds
  · have missing := not_exists.mp found
    have different : other.url ≠ url := by
      rintro rfl
      rcases inTime rfl with ⟨works, fresh⟩
      rcases (holds.isServed works storable fresh).found with ⟨given, served, _⟩
      exact found ⟨given, served⟩
    rw [Attempt.run_missing missing]
    cases interpreted : setup.client.interpret other.url other.reply with
    | error error =>
        rw [State.concludeOver_error _ interpreted]
        exact holds
    | ok answer =>
        rw [State.concludeOver_answer _ interpreted]
        rcases holds with ⟨rows, table, rows_eq⟩
        cases writing : other.faults.writing with
        | some error =>
            rw [rememberOver_fails writing]
            exact ⟨rows, table, rows_eq⟩
        | none =>
            rw [rememberOver_works writing]
            rcases Run.rows_remember table with ⟨expiry, _, stored⟩ | ⟨_, kept⟩
            · exact Holds.put ⟨rows, table, rows_eq⟩ table stored different
            · exact ⟨rows, kept, rows_eq⟩

theorem Holds.stays_all {between : List Attempt} (holds : Holds state.cache url verdict)
    (storable : verdict.expiry.milliseconds ≤ Cache.greatestStored)
    (inTime : ∀ other ∈ between, other.url = url → other.IsInTime verdict.expiry) :
    Holds (Attempt.runAll setup between state).cache url verdict := by
  induction between generalizing state with
  | nil => exact holds
  | cons other between ih =>
      rcases List.forall_mem_cons.mp inTime with ⟨first, rest⟩
      exact ih (holds.stays storable first) rest

/-- An answer that can be stored takes the place of what the table has about the link. -/
theorem Attempt.holds_run {rows : List Cache.Row} {expiry : Instant}
    (missing : ∀ given, attempt.faults.find attempt.url attempt.asked state.cache ≠
      .ok (some given))
    (works : attempt.faults.writing = none) (table : state.cache.rows = some rows)
    (interpreted : setup.client.interpret attempt.url attempt.reply = .ok answer)
    (expires : setup.expiry answer attempt.answered = some expiry)
    (fresh : attempt.answered.before expiry = true) :
    Holds (attempt.run setup state).state.cache attempt.url
      ⟨attempt.url, answer.threats, expiry⟩ := by
  rw [Attempt.run_missing missing, State.concludeOver_answer _ interpreted,
    rememberOver_works works]
  rcases Run.rows_remember table with ⟨other, expires', stored⟩ | ⟨stale, _⟩
  · cases expires.symm.trans expires'
    exact holds_put stored
  · exact absurd fresh (stale expiry expires)

end Stored

/-- The attempts differ in what they leave in the cache only. -/
def Attempted.Alike (first second : Attempted) : Prop :=
  first.result = second.result ∧ first.fetched = second.fetched ∧
    ∀ cache, { first.state with cache } = { second.state with cache }

/-- How an attempt goes, whatever the cache holds, which faults it has and what the API replies. -/
structure Attempt.Withstands (setup : Setup) (attempt : Attempt) (state : State) : Prop where
  engine : attempt.faults = {} →
    look setup attempt.url attempt.asked attempt.reply attempt.answered state =
      (⟨(attempt.run setup state).result.map ([·]), (attempt.run setup state).fetched⟩,
        (attempt.run setup state).state)
  served : ∀ threats, attempt.IsServed state.cache threats →
    (attempt.run setup state).result = .ok (Verdict.findings threats attempt.url) ∧
      (attempt.run setup state).fetched = [] ∧ (attempt.run setup state).state.cache = state.cache
  asked : (∀ threats, ¬ attempt.IsServed state.cache threats) →
    (attempt.run setup state).fetched = [setup.client.requestUrl attempt.url]
  answered : (∀ threats, ¬ attempt.IsServed state.cache threats) →
    ∀ report, setup.client.Answers attempt.reply report →
      (attempt.run setup state).result = .ok (Verdict.findings (Report.known report) attempt.url)
  failed : (∀ threats, ¬ attempt.IsServed state.cache threats) →
    (∀ report, ¬ setup.client.Answers attempt.reply report) →
      (∃ reason, (attempt.run setup state).result = .error (.unavailable reason)) ∧
        (attempt.run setup state).state.cache = state.cache
  unread : ∀ error,
    (run setup { attempt with faults := { attempt.faults with reading := some error } } state).Alike
      (run setup { attempt with faults := { attempt.faults with reading := none } }
        { state with cache := { rows := some [] } })
  unwritten : ∀ fault,
    (run setup { attempt with faults := { attempt.faults with writing := fault } } state).Alike
      (attempt.run setup state)
  replaced : (∀ threats, ¬ attempt.IsServed state.cache threats) →
    attempt.faults.writing = none → ∀ rows report expiry, state.cache.rows = some rows →
      setup.client.Answers attempt.reply report →
      setup.expiry (.ofReport report) attempt.answered = some expiry →
      attempt.answered.before expiry = true →
        Holds (attempt.run setup state).state.cache attempt.url
          ⟨attempt.url, Report.known report, expiry⟩ ∧
        ∀ (between : List Attempt) (next : Attempt),
          (∀ other ∈ between, other.url = attempt.url → other.IsInTime expiry) →
          next.url = attempt.url → next.IsInTime expiry →
            let later := next.run setup (runAll setup between (attempt.run setup state).state)
            later.result = .ok (Verdict.findings (Report.known report) attempt.url) ∧
              later.fetched = []

section Main

variable {setup : Setup} {attempt : Attempt} {state : State}

/-- Attempts that ask the API for the same link and get the same reply go alike. -/
theorem Attempt.run_alike (attempt : Attempt) (state : State) (faults : Faults)
    (cache : Cache.File)
    (missing : ∀ verdict, attempt.faults.find attempt.url attempt.asked state.cache ≠
      .ok (some verdict))
    (others : ∀ verdict, faults.find attempt.url attempt.asked cache ≠ .ok (some verdict)) :
    (run setup { attempt with faults } { state with cache }).Alike (attempt.run setup state) := by
  have other_run : run setup { attempt with faults } { state with cache } = _ :=
    run_missing others
  rw [other_run, run_missing missing]
  cases interpreted : setup.client.interpret attempt.url attempt.reply with
  | error error =>
      rw [State.concludeOver_error _ interpreted, State.concludeOver_error _ interpreted]
      exact ⟨rfl, rfl, fun _ => rfl⟩
  | ok answer =>
      rw [State.concludeOver_answer _ interpreted, State.concludeOver_answer _ interpreted]
      exact ⟨rfl, rfl, fun _ => rfl⟩

theorem Attempt.run_unwritten (fault : Option Cache.Error) :
    (run setup { attempt with faults := { attempt.faults with writing := fault } } state).Alike
      (attempt.run setup state) := by
  by_cases found : ∃ verdict, attempt.faults.find attempt.url attempt.asked state.cache =
      .ok (some verdict)
  · rcases found with ⟨verdict, found⟩
    have other_run : run setup { attempt with faults := { attempt.faults with writing := fault } }
        state = _ := run_found found
    rw [other_run, run_found found]
    exact ⟨rfl, rfl, fun _ => rfl⟩
  · have missing := not_exists.mp found
    exact run_alike attempt state { attempt.faults with writing := fault } state.cache missing
      missing

theorem Attempt.run_unread (error : Cache.Error) :
    (run setup { attempt with faults := { attempt.faults with reading := some error } } state).Alike
      (run setup { attempt with faults := { attempt.faults with reading := none } }
        { state with cache := { rows := some [] } }) := by
  have empty (verdict : Verdict) :
      Faults.find ⟨none, attempt.faults.writing⟩ attempt.url attempt.asked { rows := some [] } ≠
        .ok (some verdict) := by
    intro found
    cases found
  have unread (verdict : Verdict) :
      Faults.find ⟨some error, attempt.faults.writing⟩ attempt.url attempt.asked state.cache ≠
        .ok (some verdict) := by
    intro found
    cases found
  exact run_alike { attempt with faults := ⟨none, attempt.faults.writing⟩ }
    { state with cache := { rows := some [] } } ⟨some error, attempt.faults.writing⟩ state.cache
    empty unread

theorem Attempt.look_eq (works : attempt.faults = {}) :
    look setup attempt.url attempt.asked attempt.reply attempt.answered state =
      (⟨(attempt.run setup state).result.map ([·]), (attempt.run setup state).fetched⟩,
        (attempt.run setup state).state) := by
  simp only [look, engine, lookupAll_singleton, run, works]
  rfl

/-- A lookup fails closed on the API and open on the cache. -/
theorem Attempt.withstands (setup : Setup) (attempt : Attempt) (state : State) :
    attempt.Withstands setup state where
  engine := look_eq
  served threats served := by
    rcases served.found with ⟨verdict, found, rfl⟩
    rw [run_found found]
    exact ⟨rfl, rfl, rfl⟩
  asked unserved := by
    rw [run_missing (missing_of_not_isServed unserved)]
  answered unserved report answers := by
    rw [run_missing (missing_of_not_isServed unserved),
      State.concludeOver_answer _ (answers.interpret attempt.url), Answer.threats_ofReport]
  failed unserved unanswered := by
    cases interpreted : setup.client.interpret attempt.url attempt.reply with
    | ok answer =>
        rcases Client.exists_answers interpreted with ⟨report, answers⟩
        exact absurd answers (unanswered report)
    | error error =>
        rw [run_missing (missing_of_not_isServed unserved),
          State.concludeOver_error _ interpreted]
        exact ⟨⟨_, rfl⟩, rfl⟩
  unread := run_unread
  unwritten := run_unwritten
  replaced unserved works rows report expiry table answers expires fresh := by
    have interpreted := answers.interpret attempt.url
    have holds := holds_run (missing_of_not_isServed unserved) works table interpreted expires fresh
    rw [Answer.threats_ofReport] at holds
    refine ⟨holds, ?_⟩
    intro between next inTime same nextInTime
    have storable := Setup.expiry_le_greatestStored interpreted expires
    have still : Holds (runAll setup between (attempt.run setup state).state).cache attempt.url
        ⟨attempt.url, Report.known report, expiry⟩ := holds.stays_all storable inTime
    rw [← same] at still
    rcases (still.isServed nextInTime.1 storable nextInTime.2).found with ⟨verdict, found, read⟩
    simp only [run_found found, read, same, and_self]

/-- A row that cannot be read back is replaced by the row of an answer. A minute later this is
served to a lookup that could not store anything. -/
theorem Attempt.withstands_unreadable_row :
    ∃ (setup : Setup) (body : List UInt8),
      let state : State := { cache := { rows := some [⟨"u", "?", 1000000⟩] } }
      let first : Attempt := ⟨"u", {}, ⟨0, 0⟩, .response 200 (some body), ⟨1, 0⟩⟩
      let second : Attempt := ⟨"u", ⟨none, some .database⟩, ⟨60, 0⟩, .unreachable, ⟨60, 0⟩⟩
      (first.run setup state).result = .ok [⟨.malware, "u"⟩] ∧
        (second.run setup (first.run setup state).state).result = .ok [⟨.malware, "u"⟩] ∧
        (second.run setup (first.run setup state).state).fetched = [] := by
  have readable : ∃ body : List UInt8,
      Json.Read.body bodyShape.read body = .ok (some ⟨["malware"], none⟩) := by
    refine ⟨Utf8.encode "\x7b\"threat\":\x7b\"threatTypes\":[\"malware\"]\x7d\x7d", ?_⟩
    apply eq_ok_of_toOption
    decide +kernel
  have unreadable : (Cache.readThreats "?").toOption = none := by decide +kernel
  have known : Report.known (some ⟨["malware"], none⟩) = [.malware] := by decide +kernel
  have kept : ∃ setup : Setup, setup.client.searchUrl.scheme ∈ fetchedSchemes ∧
      setup.expiry (.ofReport (some ⟨["malware"], none⟩)) ⟨1, 0⟩ = some ⟨3601, 0⟩ :=
    ⟨⟨⟨{ scheme := "https" }, "key", [], false⟩, .ofSeconds 3600, .zero⟩, by decide,
      by decide +kernel⟩
  rcases readable with ⟨body, read⟩
  rcases kept with ⟨setup, fetched, expires⟩
  refine ⟨setup, body, ?_⟩
  intro state first second
  have answers : setup.client.Answers first.reply (some ⟨["malware"], none⟩) :=
    ⟨fetched, 200, body, by decide, rfl, read⟩
  have unserved (threats : List Threat) : ¬ first.IsServed state.cache threats := by
    rintro ⟨_, rows, row, table, found, _, read⟩
    cases table
    rw [List.mem_singleton.mp (List.mem_of_find?_eq_some found)] at read
    simp only [read] at unreadable
    cases unreadable
  have withstands := withstands setup first state
  have result := withstands.answered unserved _ answers
  have replaced := withstands.replaced unserved rfl _ _ ⟨3601, 0⟩ rfl answers expires rfl
  have later := replaced.2 [] second (by simp) rfl ⟨rfl, by decide⟩
  rw [known] at result later
  exact ⟨result, later⟩

end Main

end LinkGuard.Remote
