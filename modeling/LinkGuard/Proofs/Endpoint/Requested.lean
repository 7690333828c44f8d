import LinkGuard.Proofs.Endpoint.Search
import LinkGuard.Proofs.Message.Negotiation
import LinkGuard.Proofs.Message.Written

/-!
# Threats that a lookup asks for

The threats that a lookup asks for are accepted and ignored, so a lookup with such threats is to be
treated like the one for the same link without any. In the compact format it is, whatever the
numbers of the threats are. In JSON it is if all names are known. A single name of a newer version
has the whole lookup refused, although its link can be read.

A list of threats can also make a body longer than the server reads. Then the lookups differ in
either format.
-/

namespace LinkGuard.Endpoint

open Http (Request Response)

variable {store : AssetStore} {request other : Request} {contentType contentType' : Option String}
  {format declared : Format} {message : LookupRequest} {error : CodecError}

/-- Whatever engine answers, both requests come to the same response by the same questions. -/
def TreatedAlike (store : AssetStore) (request other : Request) : Prop :=
  ∀ (m : Type → Type) [Monad m] (engine : Engine m),
    (serve store request).run engine = (serve store other).run engine

/-- The engine that gives up at any question. -/
def silentEngine : Engine (Except Unit) := ⟨fun _ => .error (), .error ()⟩

theorem treatedAlike_of_eq (same : serve store request = serve store other) :
    TreatedAlike store request other := by
  intro m _ engine
  rw [same]

theorem TreatedAlike.symm (alike : TreatedAlike store request other) :
    TreatedAlike store other request :=
  fun m _ engine => (alike m engine).symm

theorem TreatedAlike.status_eq {response response' : Response}
    (alike : TreatedAlike store request other) (done : serve store request = .done response)
    (done' : serve store other = .done response') : response.status = response'.status := by
  have same := alike (Except Unit) silentEngine
  rw [done, done'] at same
  cases same
  rfl

theorem TreatedAlike.not_asks {response : Response} {urls : List String}
    {next : EngineAnswer → Inquiry Response} (alike : TreatedAlike store request other)
    (done : serve store request = .done response) : serve store other ≠ .lookup urls next := by
  intro asks
  have same := alike (Except Unit) silentEngine
  rw [done, asks] at same
  cases same

namespace IsLookup

theorem serve_unnegotiated (lookup : IsLookup request contentType) (store : AssetStore)
    (limit : request.body.length ≤ bodyLimit)
    (fails : ∀ format, Format.negotiate (selectorOf request) contentType ≠ .ok format) :
    serve store request =
      .done ((Refusal.ofReading .unsupportedFormat).response.finish "POST") := by
  apply lookup.serve_unreadable store limit
  exact Message.decode_eq_unsupported_iff.mpr fails

theorem serve_read (lookup : IsLookup request contentType) (store : AssetStore)
    (limit : request.body.length ≤ bodyLimit)
    (declares : contentType.bind Format.ofContentType? = some declared)
    (negotiated : Format.negotiate (selectorOf request) contentType = .ok format)
    (read : Message.read declared request.body = .ok message) :
    serve store request =
      .lookup [message.uri] fun answer => .done ((reportOn format answer).finish "POST") := by
  apply lookup.serve_readable store limit
  rw [Message.decode_of_negotiate negotiated, Message.content, declares]
  simp [read, Except.map]

theorem serve_misread (lookup : IsLookup request contentType) (store : AssetStore)
    (limit : request.body.length ≤ bodyLimit)
    (declares : contentType.bind Format.ofContentType? = some declared)
    (negotiated : Format.negotiate (selectorOf request) contentType = .ok format)
    (misread : (Message.read declared request.body : Except CodecError LookupRequest) =
      .error error) :
    serve store request = .done ((Refusal.ofReading error).response.finish "POST") := by
  apply lookup.serve_unreadable store limit
  rw [Message.decode_of_negotiate negotiated, Message.content, declares]
  simp [misread, Except.map]

/-- A lookup that is too long is never treated like one that is not. -/
theorem not_treatedAlike (lookup : IsLookup request contentType)
    (lookup' : IsLookup other contentType') (long : bodyLimit < request.body.length)
    (limit : other.body.length ≤ bodyLimit) : ¬TreatedAlike store request other := by
  intro alike
  have refused := lookup.serve_tooLong store long
  cases decoded : Message.decode (α := LookupRequest) (selectorOf other) contentType'
      other.body with
  | error error =>
      have status_eq := alike.status_eq refused (lookup'.serve_unreadable store limit decoded)
      simp [tooLong, Response.plainText, Response.withBody, Refusal.response, Refusal.ofReading,
        Refusal.status] at status_eq
  | ok read => exact alike.not_asks refused (lookup'.serve_readable store limit decoded)

end IsLookup

/-- The body is read in the format as a lookup of the link just if the condition holds. -/
def ReadsIf (condition : Prop) (declared : Format) (body : List UInt8) (uri : String) : Prop :=
  (condition ∧ ∃ threats, Message.read declared body = .ok (⟨uri, threats⟩ : LookupRequest)) ∨
    ¬condition ∧ ∃ error,
      (Message.read declared body : Except CodecError LookupRequest) = .error error

section Pairs

variable {asking plain : List UInt8} {uri : String} {condition : Prop}

theorem IsLookup.withBody (lookup : IsLookup request contentType) (body : List UInt8) :
    IsLookup { request with body } contentType :=
  ⟨lookup.path, lookup.post, lookup.declared⟩

/-- Of two lookups within the limit, of which the second can be read, the first has to be readable
too, unless no format is negotiated for either. -/
theorem treatedAlike_iff_of_short (lookup : IsLookup request contentType)
    (declares : contentType.bind Format.ofContentType? = some declared)
    (asks : ReadsIf condition declared asking uri) (asks' : ReadsIf True declared plain uri)
    (short : asking.length ≤ bodyLimit) (short' : plain.length ≤ bodyLimit) :
    TreatedAlike store { request with body := asking } { request with body := plain } ↔
      ((∃ format, Format.negotiate (selectorOf request) contentType = .ok format) →
        condition) := by
  have first := lookup.withBody asking
  have second := lookup.withBody plain
  by_cases negotiates : ∃ format, Format.negotiate (selectorOf request) contentType = .ok format
  · rcases negotiates with ⟨format, negotiated⟩
    rcases asks' with ⟨_, threats', read'⟩ | ⟨never, _⟩
    · have asked' := second.serve_read store short' declares negotiated read'
      rcases asks with ⟨holds, threats, read⟩ | ⟨fails, error, misread⟩
      · have asked := first.serve_read store short declares negotiated read
        apply iff_of_true
        · exact treatedAlike_of_eq (asked.trans asked'.symm)
        · intro _
          exact holds
      · have refused := first.serve_misread store short declares negotiated misread
        apply iff_of_false
        · intro alike
          exact alike.not_asks refused asked'
        · intro holds
          exact fails (holds ⟨format, negotiated⟩)
    · exact absurd trivial never
  · have fails := not_exists.mp negotiates
    have refused := first.serve_unnegotiated store short fails
    have refused' := second.serve_unnegotiated store short' fails
    apply iff_of_true
    · exact treatedAlike_of_eq (refused.trans refused'.symm)
    · intro negotiated
      exact absurd negotiated negotiates

/-- Without the limit on their length, the lookups have to be both too long or neither. -/
theorem treatedAlike_iff (lookup : IsLookup request contentType)
    (declares : contentType.bind Format.ofContentType? = some declared)
    (asks : ReadsIf condition declared asking uri) (asks' : ReadsIf True declared plain uri) :
    TreatedAlike store { request with body := asking } { request with body := plain } ↔
      (asking.length ≤ bodyLimit ↔ plain.length ≤ bodyLimit) ∧
        (plain.length ≤ bodyLimit →
          (∃ format, Format.negotiate (selectorOf request) contentType = .ok format) →
            condition) := by
  have first := lookup.withBody asking
  have second := lookup.withBody plain
  by_cases short : asking.length ≤ bodyLimit
  · by_cases short' : plain.length ≤ bodyLimit
    · rw [treatedAlike_iff_of_short lookup declares asks asks' short short']
      simp [short, short']
    · apply iff_of_false
      · intro alike
        exact second.not_treatedAlike first (Nat.not_le.mp short') short alike.symm
      · rintro ⟨same, _⟩
        exact short' (same.mp short)
  · by_cases short' : plain.length ≤ bodyLimit
    · apply iff_of_false
      · exact first.not_treatedAlike second (Nat.not_le.mp short) short'
      · rintro ⟨same, _⟩
        exact short (same.mpr short')
    · have refused := first.serve_tooLong store (Nat.not_le.mp short)
      have refused' := second.serve_tooLong store (Nat.not_le.mp short')
      apply iff_of_true
      · exact treatedAlike_of_eq (refused.trans refused'.symm)
      · simp [short, short']

end Pairs

/-- A lookup with threats is treated like the one for the same link without any, be it by the rule
that the numbers of threats do not count or by the rule that their names have to be known. In either
format one of the bodies alone may be too long. -/
theorem treatedAlike_without_threats (store : AssetStore) (request : Request)
    (contentType : Option String) (lookup : IsLookup request contentType) :
    (contentType.bind Format.ofContentType? = some .compact →
      ∀ asking plain uri numbers, WrittenRequest.AsksInCompact asking uri numbers →
        WrittenRequest.AsksInCompact plain uri [] →
          (TreatedAlike store { request with body := asking } { request with body := plain } ↔
            (asking.length ≤ bodyLimit ↔ plain.length ≤ bodyLimit))) ∧
    (contentType.bind Format.ofContentType? = some .json →
      ∀ asking plain uri names, WrittenRequest.AsksInJson asking uri names →
        WrittenRequest.AsksInJson plain uri [] →
          (TreatedAlike store { request with body := asking } { request with body := plain } ↔
            (asking.length ≤ bodyLimit ↔ plain.length ≤ bodyLimit) ∧
              (plain.length ≤ bodyLimit →
                (∃ format, Format.negotiate (selectorOf request) contentType = .ok format) →
                  WrittenRequest.Known names))) := by
  constructor
  · intro declares asking plain uri numbers asks asks'
    have reads : ReadsIf True .compact asking uri := .inl ⟨trivial, _, asks.read⟩
    have reads' : ReadsIf True .compact plain uri := .inl ⟨trivial, _, asks'.read⟩
    rw [treatedAlike_iff lookup declares reads reads']
    simp
  · intro declares asking plain uri names asks asks'
    have reads' : ReadsIf True .json plain uri := by
      have none : WrittenRequest.Known [] := by simp [WrittenRequest.Known]
      simpa [ReadsIf, none] using asks'.read
    exact treatedAlike_iff lookup declares asks.read reads'

/-- Neither a number of a newer version nor a known name makes a difference. -/
theorem treatedAlike_without_threats_newer :
    let compact : Request := ⟨"POST", "/v1/uris:search?alt=json",
      [("content-type", Utf8.encode "application/x-protobuf")], []⟩
    let json : Request := ⟨"POST", "/v1/uris:search?alt=proto",
      [("content-type", Utf8.encode "application/json")], []⟩
    TreatedAlike Asset.embeddedStore
        { compact with body := WrittenRequest.toCompact ⟨"u", [1, 99]⟩ }
        { compact with body := WrittenRequest.toCompact ⟨"u", []⟩ } ∧
      TreatedAlike Asset.embeddedStore
        { json with body := Utf8.encode (WrittenRequest.toJson ⟨"u", ["MALWARE"]⟩) }
        { json with body := Utf8.encode (WrittenRequest.toJson ⟨"u", []⟩) } := by
  intro compact json
  constructor
  · have lookup : IsLookup compact (some "application/x-protobuf") :=
      ⟨by decide +kernel, rfl, by decide +kernel⟩
    apply ((treatedAlike_without_threats Asset.embeddedStore compact _ lookup).1
      (by decide +kernel) _ _ "u" [1, 99] ?_ ?_).mpr
    · decide +kernel
    · exact WrittenRequest.asksInCompact_toCompact (by decide) (by decide) (by decide +kernel)
    · exact WrittenRequest.asksInCompact_toCompact (by decide) (by simp) (by decide)
  · have lookup : IsLookup json (some "application/json") :=
      ⟨by decide +kernel, rfl, by decide +kernel⟩
    apply ((treatedAlike_without_threats Asset.embeddedStore json _ lookup).2
      (by decide +kernel) _ _ "u" ["MALWARE"] ?_ ?_).mpr
    · refine ⟨by decide +kernel, ?_⟩
      intro _ _ name mem
      exact ⟨.malware, (List.mem_singleton.mp mem).symm⟩
    · exact WrittenRequest.asksInJson_toJson "u" ["MALWARE"]
    · exact WrittenRequest.asksInJson_toJson "u" []

/-- A lookup of a link with a name of a newer version is refused, the lookup of the link is not. -/
theorem newer_name_refused :
    let request : Request :=
      ⟨"POST", "/v1/uris:search", [("content-type", Utf8.encode "application/json")], []⟩
    let asking := Utf8.encode
      "\x7b\x22uri\x22:\x22http://bad.example/\x22,\x22threatTypes\x22:[\x22NEW_KIND\x22]\x7d"
    let plain := Utf8.encode "\x7b\x22uri\x22:\x22http://bad.example/\x22,\x22threatTypes\x22:[]\x7d"
    WrittenRequest.AsksInJson asking "http://bad.example/" ["NEW_KIND"] ∧
      WrittenRequest.AsksInJson plain "http://bad.example/" [] ∧
      (∃ response, serve Asset.embeddedStore { request with body := asking } = .done response ∧
        response.status = 400) ∧
      (∃ respond, serve Asset.embeddedStore { request with body := plain } =
        .lookup ["http://bad.example/"] respond) ∧
      ¬TreatedAlike Asset.embeddedStore { request with body := asking }
        { request with body := plain } := by
  intro request asking plain
  have asks : WrittenRequest.AsksInJson asking "http://bad.example/" ["NEW_KIND"] := by
    apply eq_ok_of_toOption
    decide +kernel
  have asks' : WrittenRequest.AsksInJson plain "http://bad.example/" [] := by
    apply eq_ok_of_toOption
    decide +kernel
  have lookup : IsLookup request (some "application/json") :=
    ⟨by decide +kernel, rfl, by decide +kernel⟩
  have declares : (some "application/json").bind Format.ofContentType? = some Format.json := by
    decide +kernel
  have negotiated : Format.negotiate (selectorOf request) (some "application/json") =
      .ok .json := by
    apply eq_ok_of_toOption
    decide +kernel
  have unknown : ¬WrittenRequest.Known ["NEW_KIND"] := by
    intro known
    rcases known "NEW_KIND" (List.mem_singleton_self _) with ⟨threat, named⟩
    revert named
    cases threat <;> decide
  rcases asks.read with ⟨known, _⟩ | ⟨_, error, misread⟩
  · exact absurd known unknown
  rcases asks'.read with ⟨_, threats, read⟩ | ⟨unknown, _⟩
  · have refused := (lookup.withBody asking).serve_misread Asset.embeddedStore (by decide +kernel)
      declares negotiated misread
    have asked := (lookup.withBody plain).serve_read Asset.embeddedStore (by decide +kernel)
      declares negotiated read
    refine ⟨asks, asks', ⟨_, refused, Response.status_finish⟩, ⟨_, asked⟩, ?_⟩
    intro alike
    exact alike.not_asks refused asked
  · exact absurd (by simp [WrittenRequest.Known]) unknown

end LinkGuard.Endpoint
