import LinkGuard.Asset.Embedded
import LinkGuard.Proofs.Endpoint.Redirect
import LinkGuard.Proofs.Remote.History

/-!
# Reported threats

An answer of the API that reports anything must not end in a link being called safe, neither when
the answer arrives nor later, when a verdict made from it is served. The known threats alone are
kept of a report, so this depends on the names in it: an answer whose names are all unknown is
kept as one without threats. We say which lookups use an answer and show that they, and the
redirects that rely on them, do not call its link safe exactly if the report has a known name.
-/

namespace LinkGuard.Remote

/-- A lookup of a link uses a reply if the API is asked and this is what it replies, or if the table
answers with the row that some earlier lookup has stored on this reply. -/
inductive Uses (setup : Setup) (url : String) (reply : Reply) : State → Surroundings → Prop
  | reply {state : State} {asked answered : Instant}
      (fetched : (look setup url asked reply answered state).1.fetched ≠ []) :
      Uses setup url reply state { asked, reply, answered }
  | row {before after state : State} {answered : Instant} {verdict : Verdict}
      {surroundings : Surroundings} {rows : List Cache.Row}
      (received : before.receive setup url reply answered = (.storing verdict, after))
      (table : state.cache.rows = some rows)
      (found : rows.find? (Cache.Row.answers url surroundings.asked) = some (.ofVerdict verdict))
      (silent : surroundings.fetched = []) :
      Uses setup url reply state surroundings

/-- The link is not called safe: no lookup that uses the reply answers that nothing is known against
it, and no redirect that rests on such a lookup sends its visitor on. -/
def NeverSafe (setup : Setup) (url : String) (reply : Reply) : Prop :=
  ∀ state surroundings, Uses setup url reply state surroundings →
    ((engine .scripted setup).lookup [url] state surroundings).1.1 ≠ .ok [[]] ∧
    ∀ (store : AssetStore) (request : Http.Request) (query : Option String),
      Http.Target.read request.target = ⟨"/r", query⟩ →
      Form.firstValue? "url" (Form.parse (query.getD "")) = some url →
        ((serve store request).run (engine .scripted setup) state surroundings).1.1.status ≠ 302

variable {setup : Setup} {url : String} {reply : Reply} {state : State}
  {surroundings : Surroundings} {answer : Answer}

/-- What a lookup that uses an answer gives are the threats of the answer. -/
theorem Uses.answer_eq (uses : Uses setup url reply state surroundings)
    (interpreted : setup.client.interpret url reply = .ok answer) :
    ((engine .scripted setup).lookup [url] state surroundings).1.1 =
      .ok [Verdict.findings answer.threats url] := by
  cases uses with
  | @reply _ asked answered fetched =>
      have missing (verdict : Verdict) :
          state.cache.find url asked asked ≠ .ok (some verdict) := by
        intro found
        rw [look_found found] at fetched
        exact fetched rfl
      have looked_eq : look setup url asked reply answered state = _ := look_missing missing
      have answer_eq := congrArg (fun looked => looked.1.answer) looked_eq
      simp only [Client.answerOf, interpreted] at answer_eq
      exact answer_eq
  | @row before after _ answered verdict _ rows received table found silent =>
      rcases State.receive_storing interpreted received with ⟨expiry, expires, rfl⟩
      rcases surroundings with ⟨asked, other, later, fetched⟩
      have storable := Setup.expiry_le_greatestStored interpreted expires
      have found_eq : state.cache.find url asked asked = .ok (some
          ⟨url, answer.threats, (Instant.ofMilliseconds? expiry.milliseconds).getD asked⟩) := by
        simp only [Cache.File.find_eq table, found]
        rw [Cache.Row.verdict_ofVerdict storable]
        rfl
      cases silent
      have looked_eq : look setup url asked other later state = _ := look_found found_eq
      exact congrArg (fun looked => looked.1.answer) looked_eq

/-- A visitor who is sent on is sent on by an engine that has nothing against the link. -/
theorem answer_of_sent {World : Type} {outside : Outside (StateM World)} {world : World}
    {store : AssetStore} {request : Http.Request} {query : Option String}
    (path : Http.Target.read request.target = ⟨"/r", query⟩)
    (given : Form.firstValue? "url" (Form.parse (query.getD "")) = some url)
    (sent : ((serve store request).run (engine outside setup) state world).1.1.status = 302) :
    ((engine outside setup).lookup [url] state world).1.1 = .ok [[]] := by
  rw [Endpoint.serve_of_path path] at sent
  by_cases filled : url = ""
  · have missing : Query.link? query = none := by
      apply Query.link?_eq_none
      rw [given, filled]
      rfl
    rw [Endpoint.serveRedirect_missing missing] at sent
    change (Http.Response.finish _ _).status = 302 at sent
    rw [Http.Response.status_finish] at sent
    cases sent
  · have link_eq : Query.link? query = some url := Query.link?_eq_some given filled
    cases parsed : Url.parseTarget url with
    | error error =>
        rw [Endpoint.serveRedirect_invalid link_eq parsed] at sent
        change (Http.Response.finish _ _).status = 302 at sent
        rw [Http.Response.status_finish] at sent
        cases sent
    | ok target =>
        rw [Endpoint.serveRedirect_lookup link_eq parsed] at sent
        exact ((Endpoint.obeys_followUp store request.method url target).sent _).mp sent |>.1

theorem ofName?_eq_none_iff {name : String} :
    Threat.ofName? name = none ↔ ∀ threat : Threat, ¬Text.sameLetters threat.apiName name := by
  have mem_all (threat : Threat) : threat ∈ Threat.all := by cases threat <;> decide
  rw [Threat.ofName?, List.find?_eq_none]
  constructor
  · intro unknown threat
    exact unknown threat (mem_all threat)
  · intro unknown threat _
    exact unknown threat

/-- An answer without threats is what is left of a report without known names. -/
theorem findings_ofReport_eq_nil_iff {report : Report} :
    Verdict.findings (Answer.ofReport (some report)).threats url = [] ↔
      ¬∃ name ∈ report.names, ∃ threat : Threat, Text.sameLetters threat.apiName name := by
  simp only [Verdict.findings, Answer.ofReport, List.map_eq_nil_iff, List.filterMap_eq_nil_iff,
    ofName?_eq_none_iff, not_exists, not_and]

/-- A successful answer of the API that reports threats never makes its link look safe exactly if
one of the reported names is known, in whatever letter case. -/
theorem neverSafe_iff {status : Nat} {body : List UInt8} {report : Report}
    (fetched : setup.client.searchUrl.scheme ∈ fetchedSchemes)
    (success : 200 ≤ status ∧ status < 300)
    (read : Json.Read.body bodyShape.read body = .ok (some report)) :
    NeverSafe setup url (.response status (some body)) ↔
      ∃ name ∈ report.names, ∃ threat : Threat, Text.sameLetters threat.apiName name := by
  have interpreted : setup.client.interpret url (.response status (some body)) =
      .ok (Answer.ofReport (some report)) :=
    Client.interpret_read fetched url success read
  constructor
  · intro never
    apply Classical.byContradiction
    intro unknown
    have uses : Uses setup url (.response status (some body)) { cache := {} }
        ⟨⟨0, 0⟩, .response status (some body), ⟨0, 0⟩, []⟩ := by
      apply Uses.reply
      rw [look_missing (Cache.File.find_of_none rfl)]
      exact List.cons_ne_nil _ _
    apply (never _ _ uses).1
    rw [uses.answer_eq interpreted, findings_ofReport_eq_nil_iff.mpr unknown]
  · intro known state surroundings uses
    have answer_ne : ((engine .scripted setup).lookup [url] state surroundings).1.1 ≠ .ok [[]] := by
      rw [uses.answer_eq interpreted]
      intro same
      have empty := (List.cons.inj (Except.ok.inj same)).1
      exact findings_ofReport_eq_nil_iff.mp empty known
    refine ⟨answer_ne, fun store request query path given sent => ?_⟩
    exact answer_ne (answer_of_sent path given sent)

/-- A report of malware under a name in small letters, beside an unknown one, never makes its link
look safe. -/
theorem neverSafe_malware :
    ∃ (setup : Setup) (body : List UInt8),
      setup.client.searchUrl.scheme ∈ fetchedSchemes ∧ (200 ≤ 200 ∧ 200 < 300) ∧
      Json.Read.body bodyShape.read body = .ok (some ⟨["NEW_KIND", "malware"], none⟩) ∧
      NeverSafe setup "u" (.response 200 (some body)) := by
  have read : ∃ body, Json.Read.body bodyShape.read body =
      .ok (some ⟨["NEW_KIND", "malware"], none⟩) := by
    refine ⟨Utf8.encode "\x7b\"threat\":\x7b\"threatTypes\":[\"NEW_KIND\",\"malware\"]\x7d\x7d",
      eq_ok_of_toOption ?_⟩
    decide +kernel
  rcases read with ⟨body, read⟩
  refine ⟨⟨⟨{ scheme := "https" }, "key", [], false⟩, .zero, .zero⟩, body, by decide, by decide,
    read, ?_⟩
  refine (neverSafe_iff (by decide) (by decide) read).mpr ⟨"malware", ?_, .malware, ?_⟩
  · decide
  · decide

/-- A report with nothing but an unknown name makes its link look safe: when it arrives, a minute
later out of the cache, and to a visitor who is sent on. -/
theorem unknown_name_looks_safe :
    ∃ (setup : Setup) (body : List UInt8),
      Json.Read.body bodyShape.read body = .ok (some ⟨["NEW_KIND"], none⟩) ∧
      (look setup "http://new.example/" ⟨0, 0⟩ (.response 200 (some body)) ⟨0, 0⟩
        { cache := { rows := some [] } }).1.answer = .ok [[]] ∧
      (look setup "http://new.example/" ⟨60, 0⟩ .unreachable ⟨60, 0⟩
        (look setup "http://new.example/" ⟨0, 0⟩ (.response 200 (some body)) ⟨0, 0⟩
          { cache := { rows := some [] } }).2).1 = ⟨.ok [[]], []⟩ ∧
      ((serve Asset.embeddedStore
        ⟨"GET", "/r?url=http%3A%2F%2Fnew.example%2F", [], []⟩).run (engine .scripted setup)
          { cache := { rows := some [] } }
          ⟨⟨0, 0⟩, .response 200 (some body), ⟨0, 0⟩, []⟩).1.1.status = 302 := by
  refine ⟨⟨⟨{ scheme := "https" }, "key", [], false⟩, .zero, .ofSeconds 3600⟩,
    Utf8.encode "\x7b\"threat\":\x7b\"threatTypes\":[\"NEW_KIND\"]\x7d\x7d", ?_, ?_, ?_, ?_⟩
  · apply eq_ok_of_toOption
    decide +kernel
  · apply eq_ok_of_toOption
    decide +kernel
  · refine congr (congrArg Looked.mk (eq_ok_of_toOption ?_)) ?_
    · decide +kernel
    · decide +kernel
  · decide +kernel

end LinkGuard.Remote
