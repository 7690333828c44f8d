import LinkGuard.Proofs.Endpoint.Search
import LinkGuard.Proofs.Message.Negotiation

/-!
# Bodies that are left unread

Without a selector the content type has two readers. The format of the answer is negotiated by what
a selector may name, the body is read by what a content type may name. They differ on short names
alone. Under any other content type a body is read in the format of its answer or refused. Under a
short name it is left unread, and the request is answered as if it asked about the empty link.
-/

namespace LinkGuard

open Json

/-- The content type is the short name of a format. -/
def Format.IsShortType (contentType : Option String) : Prop :=
  ∃ value ∈ contentType, ∃ format, IsShortName format value

namespace Message

variable {α : Type} [Message α] {selector contentType : Option String} {body : List UInt8}
  {format : Format} {value : String} {message : α}

/-- What is read without a selector is what the body holds in the format of the answer. -/
def ReadsAsAnswered (α : Type) [Message α] (contentType : Option String) : Prop :=
  ∀ selector body format (message : α), selector.getD "" = "" →
    decode selector contentType body = .ok (format, message) → read format body = .ok message

/-- Without a selector, a content type under which no body is read is refused. -/
def RefusesUnread (α : Type) [Message α] (contentType : Option String) : Prop :=
  contentType.bind Format.ofContentType? = none → ∀ selector body, selector.getD "" = "" →
    decode (α := α) selector contentType body = .error .unsupportedFormat

/-- There is a body that is no message in either format: a byte that no value begins with and that
promises another one. -/
theorem read_unreadable (format : Format) (message : α) : read format [0xFF] ≠ .ok message := by
  intro read_eq
  cases format with
  | json =>
      have failed : ∃ error, (read .json [0xFF] : Except CodecError α) = .error error := ⟨_, rfl⟩
      rcases failed with ⟨error, failed⟩
      rw [failed] at read_eq
      cases read_eq
  | compact =>
      have failed : ∃ error, (read .compact [0xFF] : Except CodecError α) = .error error := ⟨_, rfl⟩
      rcases failed with ⟨error, failed⟩
      rw [failed] at read_eq
      cases read_eq

theorem negotiate_unnamed_iff (unnamed : selector.getD "" = "") :
    Format.negotiate selector contentType = .ok format ↔
      ∃ value ∈ contentType, Format.IsShortName format value ∨ Format.IsMediaType format value := by
  simp only [Format.negotiate_unnamed unnamed, Format.negotiate_none,
    Format.ofSelector?_eq_some_iff]

theorem ofContentType?_of_isShortName (short : Format.IsShortName format value) :
    Format.ofContentType? value = none := by
  apply Option.eq_none_iff_forall_ne_some.mpr
  intro other found
  apply Format.not_isMediaType_of_isShortName short
  exact Format.ofContentType?_eq_some_iff.mp found

/-- Under a short name any body is read as the empty message. -/
theorem decode_of_isShortName (unnamed : selector.getD "" = "")
    (short : Format.IsShortName format value) (body : List UInt8) :
    decode (α := α) selector (some value) body = .ok (format, empty) := by
  have negotiated : Format.negotiate selector (some value) = .ok format := by
    apply (negotiate_unnamed_iff unnamed).mpr
    exact ⟨value, rfl, .inl short⟩
  rw [decode_of_negotiate negotiated, content, Option.bind_some,
    ofContentType?_of_isShortName short]
  rfl

/-- Under any other content type with which a format is negotiated, the body is read in it. -/
theorem read_of_decode (long : ¬Format.IsShortType contentType) (unnamed : selector.getD "" = "")
    (decoded : decode selector contentType body = .ok (format, message)) :
    read format body = .ok message := by
  have negotiated := negotiate_of_decode decoded
  rw [decode_of_negotiate negotiated] at decoded
  rcases (negotiate_unnamed_iff unnamed).mp negotiated with ⟨value, rfl, short | media⟩
  · exact absurd ⟨value, rfl, format, short⟩ long
  · rw [content, Option.bind_some, Format.ofContentType?_eq_some_iff.mpr media] at decoded
    simp only at decoded
    cases read_eq : (read format body : Except CodecError α) with
    | error error =>
        rw [read_eq] at decoded
        cases decoded
    | ok message =>
        rw [read_eq] at decoded
        cases decoded
        rfl

theorem readsAsAnswered_iff :
    ReadsAsAnswered α contentType ↔ ¬Format.IsShortType contentType := by
  constructor
  · rintro reads ⟨value, rfl, format, short⟩
    apply read_unreadable (α := α) format empty
    exact reads none [0xFF] format empty rfl (decode_of_isShortName rfl short [0xFF])
  · intro long selector body format message unnamed decoded
    exact read_of_decode long unnamed decoded

theorem refusesUnread_iff : RefusesUnread α contentType ↔ ¬Format.IsShortType contentType := by
  constructor
  · rintro refuses ⟨value, rfl, format, short⟩
    have unread : (some value).bind Format.ofContentType? = none := by
      rw [Option.bind_some, ofContentType?_of_isShortName short]
    have refused := refuses unread none [] rfl
    rw [decode_of_isShortName rfl short] at refused
    cases refused
  · intro long unread selector body unnamed
    rw [decode_eq_unsupported_iff]
    intro format negotiated
    rcases (negotiate_unnamed_iff unnamed).mp negotiated with ⟨value, rfl, short | media⟩
    · exact long ⟨value, rfl, format, short⟩
    · rw [Option.bind_some, Format.ofContentType?_eq_some_iff.mpr media] at unread
      cases unread

end Message

namespace Endpoint

open Http (Request Target)

/-- The request is a lookup that declares the content type and has no selector, and its body is not
too long. -/
structure IsPlainLookup (request : Request) (contentType : Option String) : Prop
    extends IsLookup request contentType where
  unnamed : (selectorOf request).getD "" = ""
  limit : request.body.length ≤ bodyLimit

/-- The request is refused, or it asks about the link of its body in the format of the answer. -/
def AsksAsAnswered (store : AssetStore) (request : Request) : Prop :=
  (∃ response, serve store request = .done response ∧ response.status = 400) ∨
    ∃ (format : Format) (message : LookupRequest) (respond : EngineAnswer → Http.Response),
      Message.read format request.body = .ok message ∧
        serve store request = .lookup [message.uri] (fun answer => .done (respond answer)) ∧
        Reports format respond

variable {store : AssetStore} {request : Request} {contentType : Option String}

theorem IsPlainLookup.asksAsAnswered (plain : IsPlainLookup request contentType)
    (long : ¬Format.IsShortType contentType) : AsksAsAnswered store request := by
  cases decoded : Message.decode (α := LookupRequest) (selectorOf request) contentType
      request.body with
  | error error =>
      left
      exact ⟨_, plain.serve_unreadable store plain.limit decoded, Http.Response.status_finish⟩
  | ok read =>
      right
      exact ⟨read.1, read.2, _, Message.read_of_decode long plain.unnamed decoded,
        plain.serve_readable store plain.limit decoded, reports_reportOn read.1⟩

theorem IsPlainLookup.asks_nothing (plain : IsPlainLookup request contentType)
    (short : Format.IsShortType contentType) :
    ∃ respond, serve store request = .lookup [""] respond := by
  rcases short with ⟨value, rfl, format, short⟩
  have decoded := Message.decode_of_isShortName (α := LookupRequest) plain.unnamed short
    request.body
  exact ⟨_, plain.serve_readable store plain.limit decoded⟩

/-- Without a selector a body is read in the format of the answer, and not left unread without being
refused, just if the content type is no short name of a format. Lookups under other content types
are refused or ask about the link of their body. Those under short names ask about the empty link,
whatever their body is. -/
theorem reads_as_answered_iff (contentType : Option String) :
    (∀ (α : Type) [Message α],
      (Message.ReadsAsAnswered α contentType ↔ ¬Format.IsShortType contentType) ∧
      (Message.RefusesUnread α contentType ↔ ¬Format.IsShortType contentType)) ∧
    ∀ (store : AssetStore) (request : Request), IsPlainLookup request contentType →
      (¬Format.IsShortType contentType → AsksAsAnswered store request) ∧
      (Format.IsShortType contentType →
        ∃ respond, serve store request = .lookup [""] respond) := by
  refine ⟨?_, ?_⟩
  · intro α _
    exact ⟨Message.readsAsAnswered_iff, Message.refusesUnread_iff⟩
  · intro store request plain
    exact ⟨plain.asksAsAnswered, plain.asks_nothing⟩

/-- A content type with a parameter is no short name, and a lookup that declares it is refused or
asks about the link of its body. -/
theorem reads_as_answered_parameter :
    let contentType := some "application/json; charset=utf-8"
    let request : Request := ⟨"POST", "/v1/uris:search",
      [("Content-Type", Utf8.encode "application/json; charset=utf-8")],
      Utf8.encode "\x7b\x22uri\x22:\x22u\x22\x7d"⟩
    Message.ReadsAsAnswered LookupResponse contentType ∧ IsPlainLookup request contentType ∧
      AsksAsAnswered Asset.embeddedStore request := by
  intro contentType request
  have long : ¬Format.IsShortType (some "application/json; charset=utf-8") := by
    rintro ⟨value, declared, format, short⟩
    cases declared
    have named := Format.isShortName_iff.mp short
    revert named
    cases format <;> decide
  have plain : IsPlainLookup request contentType :=
    ⟨⟨by decide +kernel, rfl, by decide +kernel⟩, by decide +kernel, by decide +kernel⟩
  have answered := reads_as_answered_iff contentType
  exact ⟨(answered.1 LookupResponse).1.mpr long, plain,
    (answered.2 Asset.embeddedStore request plain).1 long⟩

/-- A lookup that declares the short name of JSON asks about the empty link, although its body is
JSON with another link. -/
theorem short_type_asks_nothing :
    let body := Utf8.encode "\x7b\x22uri\x22:\x22http://bad.example/\x22\x7d"
    let request : Request :=
      ⟨"POST", "/v1/uris:search", [("content-type", Utf8.encode "json")], body⟩
    Message.decode none (some "json") body = .ok (.json, ({} : LookupRequest)) ∧
      Message.read .json body = .ok (⟨"http://bad.example/", []⟩ : LookupRequest) ∧
      ∃ respond, serve Asset.embeddedStore request = .lookup [""] respond := by
  intro body request
  have short : Format.IsShortName .json "json" := by
    apply Format.isShortName_iff.mpr
    decide
  have plain : IsPlainLookup request (some "json") :=
    ⟨⟨by decide +kernel, rfl, by decide +kernel⟩, by decide +kernel, by decide +kernel⟩
  refine ⟨Message.decode_of_isShortName rfl short body, ?_, ?_⟩
  · have read : (Json.Read.body LookupRequest.shape.read body).toOption =
        some ⟨"http://bad.example/", []⟩ := by
      decide +kernel
    rw [Message.read]
    exact congrArg (Except.mapError _) (eq_ok_of_toOption read)
  · exact plain.asks_nothing ⟨"json", rfl, .json, short⟩

end Endpoint

end LinkGuard
