import LinkGuard.Proofs.Endpoint.Redirect
import LinkGuard.Proofs.Remote.History

/-!
# Refused redirects

A redirect is refused for two reasons: its link cannot be read, or it cannot stand in a header. The
first is noticed before the engine is asked. The second is noticed when the engine has answered that
it has nothing against the link, and the engine has then done all that a lookup does.
-/

namespace LinkGuard.Endpoint

open Http (Request Response Target)

/-- The link can be read, but it cannot be sent in a header. -/
def IsUnsendable (link : String) : Prop :=
  (∃ target, Url.parseTarget link = .ok target) ∧ ¬Http.IsHeaderText link

variable {store : AssetStore} {request : Request} {query : Option String} {link : String}
  {target : Url} {answer : EngineAnswer}

theorem followUp_refused (refused : (followUp store link target answer).status = 400) :
    answer = .ok [[]] ∧ ¬Http.IsHeaderText link := by
  cases answer with
  | error error => cases refused
  | ok lists =>
      by_cases single : lists.length = 1
      · rcases List.length_eq_one_iff.mp single with ⟨findings, rfl⟩
        by_cases harmless : findings = []
        · subst harmless
          refine ⟨rfl, fun legal => ?_⟩
          rw [followUp_harmless legal] at refused
          cases refused
        · cases first : Decision.firstWarning? findings with
          | none =>
              rw [followUp_unclassified harmless first] at refused
              cases refused
          | some warning =>
              cases rendered : Page.warning store warning.1.threat warning.2 target with
              | ok page =>
                  rw [followUp_warned first rendered] at refused
                  cases refused
              | error error =>
                  rw [followUp_unrendered first rendered] at refused
                  cases refused
      · rw [followUp_miscounted single] at refused
        cases refused

/-- Once the engine has answered, a redirect is refused only for a link that it has nothing
against. -/
theorem followUp_refused_iff : (followUp store link target answer).status = 400 ↔
    answer = .ok [[]] ∧ ¬Http.IsHeaderText link := by
  constructor
  · exact followUp_refused
  · rintro ⟨rfl, illegal⟩
    rw [followUp_illegal illegal]
    rfl

variable {World : Type} {engine : Engine (StateM World)} {world : World}

theorem run_missing (path : Target.read request.target = ⟨"/r", query⟩)
    (missing : Query.link? query = none) :
    (serve store request).run engine world =
      (Refusal.nothingHere.response.finish request.method, world) := by
  rw [serve_of_path path, serveRedirect_missing missing]
  rfl

theorem run_unreadable {error : UrlError} (path : Target.read request.target = ⟨"/r", query⟩)
    (given : Query.link? query = some link) (unreadable : Url.parseTarget link = .error error) :
    (serve store request).run engine world =
      ((Refusal.ofDecision (.invalidUrl error)).response.finish request.method, world) := by
  rw [serve_of_path path, serveRedirect_invalid given unreadable]
  rfl

theorem run_readable (path : Target.read request.target = ⟨"/r", query⟩)
    (given : Query.link? query = some link) (parsed : Url.parseTarget link = .ok target) :
    (serve store request).run engine world =
      ((followUp store link target (engine.lookup [link] world).1).finish request.method,
        (engine.lookup [link] world).2) := by
  rw [serve_of_path path, serveRedirect_lookup given parsed]
  rfl

/-- A link that cannot be sent is refused when the engine has nothing against it. Whatever the
engine answers, it has been asked. -/
theorem run_unsendable (engine : Engine (StateM World)) (world : World)
    (path : Target.read request.target = ⟨"/r", query⟩)
    (given : Query.link? query = some link) (unsendable : IsUnsendable link) :
    (((serve store request).run engine world).1.status = 400 ↔
      (engine.lookup [link] world).1 = .ok [[]]) ∧
    ((serve store request).run engine world).2 = (engine.lookup [link] world).2 := by
  rcases unsendable with ⟨⟨target, parsed⟩, illegal⟩
  rw [run_readable path given parsed, Response.status_finish, followUp_refused_iff]
  exact ⟨and_iff_left illegal, rfl⟩

/-- No engine is changed by a request that is refused. -/
def RefusesUntouched (store : AssetStore) (request : Request) : Prop :=
  ∀ (World : Type) (engine : Engine (StateM World)) (world : World),
    ((serve store request).run engine world).1.status = 400 →
      ((serve store request).run engine world).2 = world

/-- An engine that counts its lookups and knows nothing against any link. -/
def countingEngine : Engine (StateM Nat) where
  lookup urls count := (.ok (urls.map fun _ => []), count + 1)
  report count := (({}, none), count)

/-- Among the redirects just those whose link can be read, but not be sent, are refused after a
lookup. Then every engine that has nothing against the link has been asked about it, and is left as
the lookup leaves it. -/
theorem refusesUntouched_iff (store : AssetStore)
    (path : Target.read request.target = ⟨"/r", query⟩) :
    (RefusesUntouched store request ↔
      ∀ link, Query.link? query = some link → ¬IsUnsendable link) ∧
    ∀ link, Query.link? query = some link → IsUnsendable link →
      ∀ (World : Type) (engine : Engine (StateM World)) (world : World),
        (((serve store request).run engine world).1.status = 400 ↔
          (engine.lookup [link] world).1 = .ok [[]]) ∧
        ((serve store request).run engine world).2 = (engine.lookup [link] world).2 := by
  refine ⟨⟨fun untouched link given unsent => ?_, fun sendable World engine world refused => ?_⟩,
    fun link given unsent World engine world => run_unsendable engine world path given unsent⟩
  · rcases run_unsendable countingEngine 0 path given unsent with ⟨refused_iff, after_eq⟩
    have same := untouched Nat countingEngine 0 (refused_iff.mpr rfl)
    rw [after_eq] at same
    cases same
  · cases given : Query.link? query with
    | none => rw [run_missing path given]
    | some link =>
        cases parsed : Url.parseTarget link with
        | error error => rw [run_unreadable path given parsed]
        | ok target =>
            rw [run_readable path given parsed, Response.status_finish] at refused
            exact absurd ⟨⟨target, parsed⟩, (followUp_refused refused).2⟩ (sendable link given)

/-- A link that cannot be read is refused by every engine untouched. One with a line feed at its end
is refused by an engine that has counted the lookup. -/
theorem refusesUntouched_iff_unreadable :
    let unreadable : Request := ⟨"GET", "/r?url=http%3A%2F%2F%5B%3A%3A1", [], []⟩
    let unsendable : Request := ⟨"GET", "/r?url=http%3A%2F%2Fgood.example%2F%0A", [], []⟩
    Target.read unreadable.target = ⟨"/r", some "url=http%3A%2F%2F%5B%3A%3A1"⟩ ∧
      RefusesUntouched Asset.embeddedStore unreadable ∧
      Target.read unsendable.target = ⟨"/r", some "url=http%3A%2F%2Fgood.example%2F%0A"⟩ ∧
      Query.link? (some "url=http%3A%2F%2Fgood.example%2F%0A") = some "http://good.example/\n" ∧
      IsUnsendable "http://good.example/\n" ∧
      ((serve Asset.embeddedStore unsendable).run countingEngine 0).1.status = 400 ∧
      ((serve Asset.embeddedStore unsendable).run countingEngine 0).2 = 1 := by
  intro unreadable unsendable
  have path : Target.read unreadable.target = ⟨"/r", some "url=http%3A%2F%2F%5B%3A%3A1"⟩ := by
    decide +kernel
  have path' : Target.read unsendable.target =
      ⟨"/r", some "url=http%3A%2F%2Fgood.example%2F%0A"⟩ := by
    decide +kernel
  have given : Query.link? (some "url=http%3A%2F%2F%5B%3A%3A1") = some "http://[::1" := by
    decide +kernel
  have given' : Query.link? (some "url=http%3A%2F%2Fgood.example%2F%0A") =
      some "http://good.example/\n" := by
    decide +kernel
  have refused : (Url.parseTarget "http://[::1").isOk = false := by decide +kernel
  have read : (Url.parseTarget "http://good.example/\n").isOk = true := by decide +kernel
  have illegal : (Utf8.encode "http://good.example/\n").all Http.isValueByte = false := by decide
  have unsent : IsUnsendable "http://good.example/\n" := by
    refine ⟨?_, fun legal => ?_⟩
    · cases parsed : Url.parseTarget "http://good.example/\n" with
      | ok target => exact ⟨target, rfl⟩
      | error error =>
          rw [parsed] at read
          cases read
    · rw [Http.all_isValueByte.mpr legal] at illegal
      cases illegal
  have untouched := (refusesUntouched_iff Asset.embeddedStore path).1.mpr fun link same => by
    rintro ⟨⟨target, parsed⟩, _⟩
    rw [given] at same
    cases same
    rw [parsed] at refused
    cases refused
  have after := (refusesUntouched_iff Asset.embeddedStore path').2 _ given' unsent Nat
    countingEngine 0
  exact ⟨path, untouched, path', given', unsent, after.1.mpr rfl, after.2⟩

/-- A harmless link with a line feed at its end is refused when the engine has counted a request to
the API and cached what came back. -/
theorem refused_after_lookup :
    ∃ setup : Remote.Setup,
      let served := (serve Asset.embeddedStore
        ⟨"GET", "/r?url=http%3A%2F%2Fgood.example%2F%0A", [], []⟩).run
          (Remote.engine .scripted setup) { cache := { rows := some [] } }
          ⟨⟨0, 0⟩, .response 200 (some (Utf8.encode "\x7b\x7d")), ⟨0, 0⟩, []⟩
      served.1.1.status = 400 ∧ served.1.2.byApi = 1 ∧ served.1.2.cache.rows ≠ some [] := by
  refine ⟨⟨⟨{ scheme := "https" }, "key", [], false⟩, .zero, .ofSeconds 3600⟩, ?_⟩
  decide +kernel

end LinkGuard.Endpoint
