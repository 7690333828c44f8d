import LinkGuard.Asset.Embedded
import LinkGuard.Endpoint.Service
import LinkGuard.Proofs.Http.Response
import LinkGuard.Proofs.Lookup.Distinct
import LinkGuard.Proofs.Message.RoundTrip
import LinkGuard.Proofs.Time.Range

/-!
# Lookups report what the engine found

A lookup is answered in the format that was negotiated for it, whatever the format of its own body
is, and a client that reads the answer in this format gets every threat that the engine found once
and in order. Requests that cannot be understood never reach the engine, and of an engine that fails
or has not understood the question the client learns the error and nothing else.

As for redirects, the question to the engine is visible in the inquiry of a request.
-/

namespace LinkGuard.Endpoint

open Http (Request Response Target)

/-- What a lookup comes to once the engine has answered. -/
def reportOn (format : Format) (answer : EngineAnswer) : Response :=
  match soleAnswer answer with
  | .ok findings =>
    Response.withBody 200 format.mediaType (Message.write format (aggregate [findings]))
  | .error error => (Refusal.engine error).response

section Reports

variable {request : Request} {query : Option String} {format : Format} {message : LookupRequest}
  {error : CodecError}

theorem answerSearch_eq (format : Format) (message : LookupRequest) :
    answerSearch format message =
      .lookup [message.uri] fun answer => .done (reportOn format answer) := by
  simp only [answerSearch, lookup, bind, Inquiry.bind]
  refine congrArg (Inquiry.lookup [message.uri]) (funext fun answer => ?_)
  rw [reportOn]
  cases soleAnswer answer with
  | ok findings => rfl
  | error error => rfl

theorem reportOn_miscounted {lists : List (List Finding)} (miscounted : lists.length ≠ 1) :
    reportOn format (.ok lists) = (Refusal.engine (.wrongCount lists.length)).response := by
  cases lists with
  | nil => rfl
  | cons findings rest =>
      cases rest with
      | nil => exact absurd rfl miscounted
      | cons second rest => rfl

theorem serveSearch_otherMethod (limit : request.body.length ≤ bodyLimit)
    (other : request.method ≠ "POST") :
    serveSearch request query = .done (Refusal.badRequest "invalid method").response := by
  rw [serveSearch, if_neg (Nat.not_lt.mpr limit), if_pos other]
  rfl

theorem serveSearch_unreadable (limit : request.body.length ≤ bodyLimit)
    (post : request.method = "POST")
    (unreadable : Message.decode (α := LookupRequest) (Query.selector? query)
      ((request.header? "content-type").bind Http.visible?) request.body = .error error) :
    serveSearch request query = .done (Refusal.ofReading error).response := by
  rw [serveSearch, if_neg (Nat.not_lt.mpr limit), if_neg (not_not_intro post)]
  simp only [unreadable]
  rfl

theorem serveSearch_readable (limit : request.body.length ≤ bodyLimit)
    (post : request.method = "POST")
    (readable : Message.decode (Query.selector? query)
      ((request.header? "content-type").bind Http.visible?) request.body = .ok (format, message)) :
    serveSearch request query = answerSearch format message := by
  rw [serveSearch, if_neg (Nat.not_lt.mpr limit), if_neg (not_not_intro post)]
  simp only [readable]

end Reports

/-- How the responses to a lookup follow what the engine answers. -/
structure Reports (format : Format) (respond : EngineAnswer → Response) : Prop where
  /-- One list of findings is reported in the format, as the threats that appear in it. -/
  found : ∀ findings, (respond (.ok [findings])).status = 200 ∧
    (∀ value, ("content-type", value) ∈ (respond (.ok [findings])).headers ↔
      value = Utf8.encode format.mediaType) ∧
    ∃ response : LookupResponse,
      Message.decode none (some format.mediaType) (respond (.ok [findings])).body =
        .ok (format, response) ∧
      FirstAppearances response.threats (findings.map Finding.threat)
  /-- Of an engine that fails the client learns the error. -/
  failed : ∀ error, (respond (.error error)).status = 500 ∧
    (respond (.error error)).body = Utf8.encode (error.message ++ "\n")
  /-- Of any other number of lists the client learns the number. -/
  miscounted : ∀ lists, lists.length ≠ 1 → (respond (.ok lists)).status = 500 ∧
    (respond (.ok lists)).body = Utf8.encode
      ("malformed engine result: expected 1 result set, got " ++ toString lists.length ++ "\n")

theorem fits_aggregate (answer : List (List Finding)) : (aggregate answer).Fits := by
  have few : (aggregate answer).threats.length ≤ 5 := length_aggregate_le answer
  have wide : 5 < Nat.pow 2 64 := by decide
  exact Nat.lt_of_le_of_lt few wide

theorem reports_reportOn (format : Format) :
    Reports format fun answer => (reportOn format answer).finish "POST" where
  found findings := by
    have report_eq : reportOn format (.ok [findings]) =
        .withBody 200 format.mediaType (Message.write format (aggregate [findings])) := rfl
    rw [Response.status_finish, Response.body_finish_of_ne (by decide) (by decide), report_eq]
    refine ⟨rfl, fun value => ?_, aggregate [findings], ?_, firstAppearances_aggregate findings⟩
    · rw [Response.mem_headers_finish (by decide)]
      constructor
      · intro mem
        exact congrArg Prod.snd (List.mem_singleton.mp mem)
      · rintro rfl
        exact List.mem_singleton.mpr rfl
    · exact Message.decode_write_response format fun _ => fits_aggregate [findings]
  failed error := by
    rw [Response.status_finish, Response.body_finish_of_ne (by decide) (by decide)]
    exact ⟨rfl, rfl⟩
  miscounted lists miscounted := by
    rw [Response.status_finish, Response.body_finish_of_ne (by decide) (by decide),
      reportOn_miscounted miscounted]
    refine ⟨rfl, ?_⟩
    change Utf8.encode ("malformed engine result: " ++
      ("expected 1 result set, got " ++ toString lists.length) ++ "\n") = _
    rw [← String.append_assoc]
    rfl

variable {store : AssetStore} {request : Request} {query : Option String}

theorem serve_of_searchPath (path : Target.read request.target = ⟨"/v1/uris:search", query⟩) :
    serve store request =
      (serveSearch request query).bind fun response => .done (response.finish request.method) := by
  simp only [serve, path]
  rfl

/-- The request is a lookup that declares the content type. -/
structure IsLookup (request : Request) (contentType : Option String) : Prop where
  path : (Target.read request.target).path = "/v1/uris:search"
  post : request.method = "POST"
  declared : (request.header? "content-type").bind Http.visible? = contentType

/-- The selector of a request. -/
def selectorOf (request : Request) : Option String :=
  Query.selector? (Target.read request.target).query

/-- The response to a lookup whose body is too long to be read. -/
def tooLong : Response :=
  Response.plainText 413 "Failed to buffer the request body: length limit exceeded"

namespace IsLookup

variable {contentType : Option String} {format : Format} {message : LookupRequest}
  {error : CodecError}

theorem serve_eq (lookup : IsLookup request contentType) :
    serve store request = (serveSearch request (Target.read request.target).query).bind
      fun response => .done (response.finish "POST") := by
  rw [← lookup.post]
  apply serve_of_searchPath
  rw [← lookup.path]

theorem serve_tooLong (lookup : IsLookup request contentType) (store : AssetStore)
    (long : bodyLimit < request.body.length) :
    serve store request = .done (tooLong.finish "POST") := by
  rw [lookup.serve_eq, serveSearch, if_pos long]
  rfl

theorem serve_unreadable (lookup : IsLookup request contentType) (store : AssetStore)
    (limit : request.body.length ≤ bodyLimit)
    (unreadable : Message.decode (α := LookupRequest) (selectorOf request) contentType
      request.body = .error error) :
    serve store request = .done ((Refusal.ofReading error).response.finish "POST") := by
  rw [← lookup.declared] at unreadable
  rw [lookup.serve_eq, serveSearch_unreadable limit lookup.post unreadable]
  rfl

theorem serve_readable (lookup : IsLookup request contentType) (store : AssetStore)
    (limit : request.body.length ≤ bodyLimit)
    (readable : Message.decode (selectorOf request) contentType request.body =
      .ok (format, message)) :
    serve store request =
      .lookup [message.uri] fun answer => .done ((reportOn format answer).finish "POST") := by
  rw [← lookup.declared] at readable
  rw [lookup.serve_eq, serveSearch_readable limit lookup.post readable, answerSearch_eq]
  rfl

end IsLookup

/-- A request for a lookup by any method but `POST`, or whose format or body cannot be read, is
refused, and neither asks the engine. Every other one asks it once, about the link of its body as it
is, and reports what it answers in the format negotiated. -/
theorem serve_search (store : AssetStore) (request : Request) (query : Option String)
    (path : Target.read request.target = ⟨"/v1/uris:search", query⟩)
    (limit : request.body.length ≤ bodyLimit) :
    let selector := Form.firstValue? "alt" (Form.parse (query.getD ""))
    let contentType := (request.header? "content-type").bind Http.visible?
    (request.method ≠ "POST" →
      ∃ response, serve store request = .done response ∧ response.status = 400) ∧
    (request.method = "POST" →
      (∀ error, Message.decode (α := LookupRequest) selector contentType request.body =
          .error error →
        ∃ response, serve store request = .done response ∧ response.status = 400) ∧
      ∀ (format : Format) (message : LookupRequest),
        Message.decode selector contentType request.body = .ok (format, message) →
          ∃ respond : EngineAnswer → Response,
            serve store request = .lookup [message.uri] (fun answer => .done (respond answer)) ∧
              Reports format respond) := by
  rw [serve_of_searchPath path]
  refine ⟨fun other => ?_, fun post =>
    ⟨fun error unreadable => ?_, fun format message readable => ?_⟩⟩
  · rw [serveSearch_otherMethod limit other]
    exact ⟨_, rfl, Response.status_finish⟩
  · rw [serveSearch_unreadable limit post unreadable]
    exact ⟨_, rfl, Response.status_finish⟩
  · rw [serveSearch_readable limit post readable, answerSearch_eq, post]
    exact ⟨_, rfl, reports_reportOn format⟩

/-- A lookup whose body is JSON and whose selector names the compact format is reported in it. -/
theorem serve_search_compact :
    Target.read "/v1/uris:search?alt=proto" = ⟨"/v1/uris:search", some "alt=proto"⟩ ∧
      (Utf8.encode "\x7b\x22uri\x22:\x22u\x22\x7d").length ≤ bodyLimit ∧
      ∃ respond : EngineAnswer → Response,
        serve Asset.embeddedStore ⟨"POST", "/v1/uris:search?alt=proto",
            [("content-type", Utf8.encode "application/json")],
            Utf8.encode "\x7b\x22uri\x22:\x22u\x22\x7d"⟩ =
          .lookup ["u"] (fun answer => .done (respond answer)) ∧
        Reports .compact respond := by
  have path : Target.read "/v1/uris:search?alt=proto" =
      ⟨"/v1/uris:search", some "alt=proto"⟩ := by decide +kernel
  have limit : (Utf8.encode "\x7b\x22uri\x22:\x22u\x22\x7d").length ≤ bodyLimit := by
    decide +kernel
  have served := (serve_search Asset.embeddedStore ⟨"POST", "/v1/uris:search?alt=proto",
    [("content-type", Utf8.encode "application/json")],
    Utf8.encode "\x7b\x22uri\x22:\x22u\x22\x7d"⟩ _ path limit).2 rfl
  have readable : (Message.decode (Form.firstValue? "alt" (Form.parse "alt=proto"))
      (some (Utf8.encode "application/json") |>.bind Http.visible?)
      (Utf8.encode "\x7b\x22uri\x22:\x22u\x22\x7d")).toOption =
        some (Format.compact, (⟨"u", []⟩ : LookupRequest)) := by
    decide +kernel
  refine ⟨path, limit, served.2 .compact ⟨"u", []⟩ ?_⟩
  exact eq_ok_of_toOption readable

end LinkGuard.Endpoint
