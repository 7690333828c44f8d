import LinkGuard.Endpoint.Service
import LinkGuard.Proofs.Http.Response
import LinkGuard.Proofs.Redirect.Decision

/-!
# Redirects obey the engine

A redirect is the one place where a mistake of the server harms its visitors: sending them on when
the engine has not called the link safe, sending them elsewhere than they were told, or letting a
link smuggle header lines into a response. We describe the responses to a redirect for everything
an engine may say, and show that the service gives exactly these.

The engine is asked at most once, about the link of the request. This is visible in the inquiry of
the request, so it holds for engines whose answers have effects as well.
-/

namespace LinkGuard

open Http (Request Response Target)

namespace Http

/-- The text holds no control characters but tabs, so it can stand in a header. -/
def IsHeaderText (text : String) : Prop :=
  ∀ byte ∈ Utf8.encode text, byte = 0x09 ∨ 0x20 ≤ byte ∧ byte ≠ 0x7F

variable {text : String}

theorem all_isValueByte :
    (Utf8.encode text).all isValueByte = true ↔ IsHeaderText text := by
  simp only [List.all_eq_true, isValueByte, decide_eq_true_eq, IsHeaderText]
  constructor
  · intro each byte mem
    exact (each byte mem).symm
  · intro each byte mem
    exact (each byte mem).symm

theorem headerValue?_of_isHeaderText (legal : IsHeaderText text) :
    headerValue? text = some (Utf8.encode text) :=
  if_pos (all_isValueByte.mpr legal)

theorem headerValue?_of_not_isHeaderText (illegal : ¬IsHeaderText text) :
    headerValue? text = none :=
  if_neg (illegal ∘ all_isValueByte.mp)

end Http

namespace Query

variable {query : Option String} {link : String}

theorem link?_eq_none
    (missing : (Form.firstValue? "url" (Form.parse (query.getD ""))).getD "" = "") :
    link? query = none := by
  rw [link?]
  cases value : Form.firstValue? "url" (Form.parse (query.getD "")) with
  | none => rfl
  | some link =>
      rw [value] at missing
      exact if_neg (by simpa using missing)

theorem link?_eq_some (given : Form.firstValue? "url" (Form.parse (query.getD "")) = some link)
    (filled : link ≠ "") : link? query = some link := by
  rw [link?, given]
  exact if_pos (by simpa using filled)

end Query

namespace Endpoint

/-- What a redirect to a link comes to once the engine has answered. -/
def followUp (store : AssetStore) (link : String) (target : Url) (answer : EngineAnswer) :
    Response :=
  match soleAnswer answer with
  | .ok findings => carryOut store (Decision.select link target findings)
  | .error error => (Refusal.engine error).response

variable {store : AssetStore} {query : Option String} {link : String} {target : Url}

theorem serveRedirect_missing (missing : Query.link? query = none) :
    serveRedirect store query = .done Refusal.nothingHere.response := by
  simp only [serveRedirect, missing]
  rfl

theorem serveRedirect_invalid {error : UrlError} (given : Query.link? query = some link)
    (invalid : Url.parseTarget link = .error error) :
    serveRedirect store query = .done (Refusal.ofDecision (.invalidUrl error)).response := by
  simp only [serveRedirect, given, Decision.make, invalid]
  rfl

theorem serveRedirect_lookup (given : Query.link? query = some link)
    (parsed : Url.parseTarget link = .ok target) :
    serveRedirect store query =
      .lookup [link] fun answer => .done (followUp store link target answer) := by
  simp only [serveRedirect, given, Decision.make, parsed, bind, Inquiry.bind]
  refine congrArg (Inquiry.lookup [link]) (funext fun answer => ?_)
  rw [followUp]
  cases soleAnswer answer with
  | ok findings => rfl
  | error error => rfl

theorem followUp_harmless (legal : Http.IsHeaderText link) :
    followUp store link target (.ok [[]]) = ⟨302, [("location", Utf8.encode link)], []⟩ := by
  change sendOn link = _
  simp only [sendOn, Http.headerValue?_of_isHeaderText legal]

theorem followUp_illegal (illegal : ¬Http.IsHeaderText link) :
    followUp store link target (.ok [[]]) =
      (Refusal.badRequest "invalid url: bad characters").response := by
  change sendOn link = _
  simp only [sendOn, Http.headerValue?_of_not_isHeaderText illegal]

theorem followUp_warned {findings : List Finding} {finding : Finding} {fragment page : String}
    (first : Decision.firstWarning? findings = some (finding, fragment))
    (rendered : Page.warning store finding.threat fragment target = .ok page) :
    followUp store link target (.ok [findings]) =
      Response.withBody 200 "text/html; charset=utf-8" (Utf8.encode page) := by
  change carryOut store (Decision.select link target findings) = _
  rw [Decision.select_of_firstWarning? first]
  simp only [carryOut, rendered]

theorem followUp_unrendered {findings : List Finding} {finding : Finding} {fragment : String}
    {error : PageError} (first : Decision.firstWarning? findings = some (finding, fragment))
    (failed : Page.warning store finding.threat fragment target = .error error) :
    followUp store link target (.ok [findings]) = (Refusal.page error).response := by
  change carryOut store (Decision.select link target findings) = _
  rw [Decision.select_of_firstWarning? first]
  simp only [carryOut, failed]

theorem followUp_unclassified {findings : List Finding} (filled : findings ≠ [])
    (unregistered : Decision.firstWarning? findings = none) :
    followUp store link target (.ok [findings]) =
      (Refusal.notFound ("no warning page for threat types: " ++
        ", ".intercalate ((findings.map Finding.threat).map Threat.apiName))).response := by
  change carryOut store (Decision.select link target findings) = _
  rw [Decision.select_of_unregistered filled unregistered, carryOut]

theorem followUp_miscounted {lists : List (List Finding)} (miscounted : lists.length ≠ 1) :
    followUp store link target (.ok lists) =
      (Refusal.engine (.wrongCount lists.length)).response := by
  cases lists with
  | nil => rfl
  | cons findings rest =>
      cases rest with
      | nil => exact absurd rfl miscounted
      | cons second rest => rfl

/-- The visitor is not sent anywhere. -/
def Stays (response : Response) : Prop :=
  response.status ≠ 302 ∧ ∀ value, ("location", value) ∉ response.headers

theorem stays_withBody {status : Nat} {mediaType : String} {body : List UInt8}
    (other : status ≠ 302) : Stays (.withBody status mediaType body) := by
  refine ⟨other, fun value mem => ?_⟩
  have name_eq : "location" = "content-type" := congrArg Prod.fst (List.mem_singleton.mp mem)
  exact absurd name_eq (by decide)

theorem stays_refusal (refusal : Refusal) : Stays refusal.response := by
  refine stays_withBody ?_
  cases refusal with
  | badRequest | notFound | engine | page | encoding => simp [Refusal.status]

/-- Visitors are sent on for one answer of the engine only. -/
theorem followUp_stays {answer : EngineAnswer}
    (other : ¬(answer = .ok [[]] ∧ Http.IsHeaderText link)) :
    Stays (followUp store link target answer) := by
  cases answer with
  | error error => exact stays_refusal _
  | ok lists =>
      by_cases single : lists.length = 1
      · rcases List.length_eq_one_iff.mp single with ⟨findings, rfl⟩
        by_cases harmless : findings = []
        · subst harmless
          rw [followUp_illegal fun legal => other ⟨rfl, legal⟩]
          exact stays_refusal _
        · cases first : Decision.firstWarning? findings with
          | none =>
              rw [followUp_unclassified harmless first]
              exact stays_refusal _
          | some warning =>
              cases rendered : Page.warning store warning.1.threat warning.2 target with
              | ok page =>
                  rw [followUp_warned first rendered]
                  exact stays_withBody (by decide)
              | error error =>
                  rw [followUp_unrendered first rendered]
                  exact stays_refusal _
      · rw [followUp_miscounted single]
        exact stays_refusal _

/-- How the responses to a redirect follow what the engine answers about its link. -/
structure Obeys (store : AssetStore) (method link : String) (target : Url)
    (respond : EngineAnswer → Response) : Prop where
  /-- Visitors are sent on exactly if the engine has nothing against the link and it is legal. -/
  sent : ∀ answer, (respond answer).status = 302 ↔ answer = .ok [[]] ∧ Http.IsHeaderText link
  /-- Where visitors are sent is the link as it was given. -/
  location : ∀ answer value, ("location", value) ∈ (respond answer).headers ↔
    answer = .ok [[]] ∧ Http.IsHeaderText link ∧ value = Utf8.encode link
  illegal : ¬Http.IsHeaderText link → (respond (.ok [[]])).status = 400
  /-- The first finding with a fragment is warned of. -/
  warned : ∀ before finding after fragment page,
    (∀ other ∈ before, other.threat.fragment? = none) →
    finding.threat.fragment? = some fragment →
    Page.warning store finding.threat fragment target = .ok page →
      (respond (.ok [before ++ finding :: after])).status = 200 ∧
        ("content-type", Utf8.encode "text/html; charset=utf-8") ∈
          (respond (.ok [before ++ finding :: after])).headers ∧
        (respond (.ok [before ++ finding :: after])).body =
          if method = "HEAD" ∨ method = "CONNECT" then [] else Utf8.encode page
  unrendered : ∀ before finding after fragment error,
    (∀ other ∈ before, other.threat.fragment? = none) →
    finding.threat.fragment? = some fragment →
    Page.warning store finding.threat fragment target = .error error →
      (respond (.ok [before ++ finding :: after])).status = 500
  unclassified : ∀ findings, findings ≠ [] → (∀ other ∈ findings, other.threat.fragment? = none) →
    (respond (.ok [findings])).status = 404
  failed : ∀ error, (respond (.error error)).status = 500
  miscounted : ∀ lists, lists.length ≠ 1 → (respond (.ok lists)).status = 500

theorem obeys_followUp (store : AssetStore) (method link : String) (target : Url) :
    Obeys store method link target fun answer =>
      (followUp store link target answer).finish method where
  sent answer := by
    rw [Response.status_finish]
    constructor
    · intro sent
      by_cases harmless : answer = .ok [[]] ∧ Http.IsHeaderText link
      · exact harmless
      · exact absurd sent (followUp_stays harmless).1
    · rintro ⟨rfl, legal⟩
      rw [followUp_harmless legal]
  location answer value := by
    rw [Response.mem_headers_finish (by decide)]
    constructor
    · intro mem
      by_cases harmless : answer = .ok [[]] ∧ Http.IsHeaderText link
      · rcases harmless with ⟨rfl, legal⟩
        rw [followUp_harmless legal] at mem
        exact ⟨rfl, legal, congrArg Prod.snd (List.mem_singleton.mp mem)⟩
      · exact absurd mem ((followUp_stays harmless).2 value)
    · rintro ⟨rfl, legal, rfl⟩
      rw [followUp_harmless legal]
      exact List.mem_singleton.mpr rfl
  illegal illegal := by
    rw [Response.status_finish, followUp_illegal illegal]
    rfl
  warned before finding after fragment page unregistered registered rendered := by
    have first : Decision.firstWarning? (before ++ finding :: after) = some (finding, fragment) :=
      Decision.firstWarning?_append unregistered registered
    rw [Response.status_finish, Response.mem_headers_finish (by decide), Response.body_finish,
      followUp_warned first rendered]
    refine ⟨rfl, List.mem_singleton.mpr rfl, ?_⟩
    simp [Response.withBody]
  unrendered before finding after fragment error unregistered registered failed := by
    have first : Decision.firstWarning? (before ++ finding :: after) = some (finding, fragment) :=
      Decision.firstWarning?_append unregistered registered
    rw [Response.status_finish, followUp_unrendered first failed]
    rfl
  unclassified findings filled unregistered := by
    rw [Response.status_finish,
      followUp_unclassified filled (Decision.firstWarning?_eq_none unregistered)]
    rfl
  failed error := by
    rw [Response.status_finish]
    rfl
  miscounted lists miscounted := by
    rw [Response.status_finish, followUp_miscounted miscounted]
    rfl

variable {request : Request}

theorem serve_of_path (path : Target.read request.target = ⟨"/r", query⟩) :
    serve store request =
      (serveRedirect store query).bind fun response => .done (response.finish request.method) := by
  simp only [serve, path]
  rfl

/-- A request for a redirect without a link is not found, one whose link cannot be read is refused,
and neither asks the engine. Every other one asks it once, about the first link of the query, and
obeys what it answers. -/
theorem serve_redirect (store : AssetStore) (request : Request) (query : Option String)
    (path : Target.read request.target = ⟨"/r", query⟩) :
    ((Form.firstValue? "url" (Form.parse (query.getD ""))).getD "" = "" →
      ∃ response, serve store request = .done response ∧ response.status = 404) ∧
    ∀ link, Form.firstValue? "url" (Form.parse (query.getD "")) = some link → link ≠ "" →
      (∀ error, Url.parseTarget link = .error error →
        ∃ response, serve store request = .done response ∧ response.status = 400) ∧
      ∀ target, Url.parseTarget link = .ok target →
        ∃ respond : EngineAnswer → Response,
          serve store request = .lookup [link] (fun answer => .done (respond answer)) ∧
            Obeys store request.method link target respond := by
  rw [serve_of_path path]
  refine ⟨fun missing => ?_, fun link given filled => ?_⟩
  · rw [serveRedirect_missing (Query.link?_eq_none missing)]
    exact ⟨_, rfl, Response.status_finish⟩
  · have link_eq : Query.link? query = some link := Query.link?_eq_some given filled
    refine ⟨fun error invalid => ?_, fun target parsed => ?_⟩
    · rw [serveRedirect_invalid link_eq invalid]
      exact ⟨_, rfl, Response.status_finish⟩
    · rw [serveRedirect_lookup link_eq parsed]
      exact ⟨_, rfl, obeys_followUp store request.method link target⟩

/-- A visitor of a good link is sent on if the engine has nothing against it, and not if it
fails. -/
theorem serve_redirect_good :
    Target.read "/r?url=http%3A%2F%2Fgood.example%2F" =
        ⟨"/r", some "url=http%3A%2F%2Fgood.example%2F"⟩ ∧
      ∃ respond : EngineAnswer → Response,
        serve Asset.embeddedStore ⟨"GET", "/r?url=http%3A%2F%2Fgood.example%2F", [], []⟩ =
            .lookup ["http://good.example/"] (fun answer => .done (respond answer)) ∧
          (respond (.ok [[]])).status = 302 ∧ (respond (.error .cancelled)).status = 500 := by
  have path : Target.read "/r?url=http%3A%2F%2Fgood.example%2F" =
      ⟨"/r", some "url=http%3A%2F%2Fgood.example%2F"⟩ := by decide +kernel
  have given : Form.firstValue? "url" (Form.parse "url=http%3A%2F%2Fgood.example%2F") =
      some "http://good.example/" := by decide +kernel
  have readable : (Url.parseTarget "http://good.example/").isOk = true := by decide +kernel
  have legal : (Utf8.encode "http://good.example/").all Http.isValueByte = true := by
    decide +kernel
  have served := (serve_redirect Asset.embeddedStore
    ⟨"GET", "/r?url=http%3A%2F%2Fgood.example%2F", [], []⟩ _ path).2 _ given (by decide)
  cases parsed : Url.parseTarget "http://good.example/" with
  | error error =>
      rw [parsed] at readable
      cases readable
  | ok target =>
      rcases served.2 target parsed with ⟨respond, asked, obeys⟩
      exact ⟨path, respond, asked, (obeys.sent _).mpr ⟨rfl, Http.all_isValueByte.mp legal⟩,
        obeys.failed _⟩

/-- The warning that a request for a page shows is left out of the response to a request for a
connection. -/
theorem serve_redirect_connection :
    ∃ (store : AssetStore) (engine : Engine Id),
      ((serve store ⟨"GET", "/r?url=http%3A%2F%2Fbad.example%2F", [], []⟩).run engine).status =
        200 ∧
      ((serve store ⟨"GET", "/r?url=http%3A%2F%2Fbad.example%2F", [], []⟩).run engine).body =
        Utf8.encode "beware" ∧
      ((serve store ⟨"CONNECT", "/r?url=http%3A%2F%2Fbad.example%2F", [], []⟩).run engine).status =
        200 ∧
      ((serve store ⟨"CONNECT", "/r?url=http%3A%2F%2Fbad.example%2F", [], []⟩).run engine).body =
        [] := by
  refine ⟨fun _ => .ok (Utf8.encode "beware"),
    ⟨fun urls => .ok (urls.map fun url => [⟨.malware, url⟩]), ({}, none)⟩, ?_⟩
  decide +kernel

end Endpoint

end LinkGuard
