import LinkGuard.Proofs.Json.Records
import LinkGuard.Proofs.Threat.Spelling

/-!
# Messages are read back

Requests and responses are read back from what is written for them in either format, so that the
two encodings of a message stand for the same message. In JSON the members of a record are followed,
of which one may be left out. In the compact format the fields are followed, and both may be left
out.

The compact format counts the bytes of its chunks with 64 bits. Messages whose texts and lists are
longer do not fit into it, but neither do they into any memory.
-/

namespace LinkGuard

open Json

namespace LookupRequest

variable {request : LookupRequest}

/-- The lengths in the request are numbers of 64 bits, as those of all texts and lists in memory. -/
structure Fits (request : LookupRequest) : Prop where
  uri : (Utf8.encode request.uri).length < Nat.pow 2 64
  threats : request.threats.length < Nat.pow 2 64

theorem reads_toJson (request : LookupRequest) :
    Reads shape.read (Utf8.encode request.toJson) request := by
  have uri : Reads (do pure ({ uri := ← Read.text } : LookupRequest))
      (Utf8.encode (text request.uri)) { uri := request.uri } :=
    (reads_text request.uri).map fun uri => ({ uri } : LookupRequest)
  have threats : Reads (do pure ({ request with threats := ← Read.list Threat.read }))
      (Utf8.encode (Threat.listToJson request.threats)) request :=
    (Threat.reads_listToJson request.threats).map fun threats => { request with threats }
  apply reads_record
  apply Shape.Fills.cons rfl rfl uri
  split
  case isTrue none =>
    have whole : ({ uri := request.uri } : LookupRequest) = request := by
      rw [← List.isEmpty_iff.mp none]
    rw [whole]
    exact Shape.Fills.nil rfl
  case isFalse =>
    apply Shape.Fills.cons rfl rfl threats
    exact Shape.Fills.nil rfl

theorem readMessage_toCompact (fits : request.Fits) :
    Wire.readMessage fields {} request.toCompact = .ok request := by
  have uri : Wire.Carries fields {} (if request.uri = "" then [] else
      Wire.writeKey 1 .chunk ++ Wire.writeChunk (Utf8.encode request.uri))
      { uri := request.uri } := by
    split
    case isTrue empty =>
      rw [empty]
      exact Wire.Carries.nil _
    case isFalse =>
      apply Wire.Carries.field (by decide) (by decide) rfl
      intro rest
      simp only [Wire.readText_writeChunk fits.uri, bind, Except.bind]
  have threats : Wire.Carries fields { uri := request.uri }
      (Threat.listToCompact 2 request.threats) request := by
    apply Threat.carries_listToCompact (by decide) (by decide) rfl fits.threats
    · intro none
      rw [← none]
    · intro bytes rest read
      simp only [read, bind, Except.bind, Threat.ofNumbers_map_number, List.nil_append]
  exact (uri.append threats).readMessage_eq

end LookupRequest

namespace LookupResponse

variable {response : LookupResponse}

/-- The length of the response is a number of 64 bits, as those of all lists in memory. -/
def Fits (response : LookupResponse) : Prop :=
  response.threats.length < Nat.pow 2 64

theorem reads_toJson (response : LookupResponse) :
    Reads shape.read (Utf8.encode response.toJson) response := by
  have threats : Reads (do pure ({ threats := ← Read.list Threat.read } : LookupResponse))
      (Utf8.encode (Threat.listToJson response.threats)) response :=
    (Threat.reads_listToJson response.threats).map fun threats => ({ threats } : LookupResponse)
  apply reads_record
  apply Shape.Fills.cons rfl rfl threats
  exact Shape.Fills.nil rfl

theorem readMessage_toCompact (fits : response.Fits) :
    Wire.readMessage fields {} response.toCompact = .ok response := by
  apply Wire.Carries.readMessage_eq
  apply Threat.carries_listToCompact (by decide) (by decide) rfl fits
  · intro none
    rw [← none]
  · intro bytes rest read
    simp only [read, bind, Except.bind, Threat.ofNumbers_map_number, List.nil_append]

end LookupResponse

namespace Message

section Decoding

variable {α : Type} [Message α] {message : α}

theorem ofContentType?_mediaType (format : Format) :
    Format.ofContentType? format.mediaType = some format := by
  cases format <;> decide +kernel

theorem negotiate_mediaType (format : Format) :
    Format.negotiate none (some format.mediaType) = .ok format := by
  have selected : Format.ofSelector? format.mediaType = some format := by
    cases format <;> decide +kernel
  simp only [Format.negotiate, Option.filter_none, Option.getD_some, selected]

/-- The media type of a format selects the format and has the body read in it. -/
theorem decode_mediaType (format : Format) (body : List UInt8) :
    decode none (some format.mediaType) body =
      (read format body).map fun message : α => (format, message) := by
  rw [decode, negotiate_mediaType, Option.bind_some, ofContentType?_mediaType]
  rfl

/-- A message is read back from what is written for it in a format if its encoding there is. -/
theorem decode_write (format : Format)
    (json : Reads (shape (α := α)).read (Utf8.encode (toJson message)) message)
    (compact : format = .compact →
      Wire.readMessage fields empty (toCompact message) = .ok message) :
    decode none (some format.mediaType) (write format message) = .ok (format, message) := by
  rw [decode_mediaType]
  cases format with
  | json =>
      rw [read, write, body_of_reads json]
      rfl
  | compact =>
      rw [read, write, compact rfl]
      rfl

end Decoding

theorem decode_write_request {request : LookupRequest} (format : Format)
    (fits : format = .compact → request.Fits) :
    decode none (some format.mediaType) (write format request) = .ok (format, request) :=
  decode_write format (LookupRequest.reads_toJson request) fun compact =>
    LookupRequest.readMessage_toCompact (fits compact)

theorem decode_write_response {response : LookupResponse} (format : Format)
    (fits : format = .compact → response.Fits) :
    decode none (some format.mediaType) (write format response) = .ok (format, response) :=
  decode_write format (LookupResponse.reads_toJson response) fun compact =>
    LookupResponse.readMessage_toCompact (fits compact)

/-- Whatever a request or a response holds, it is read back from what is written for it, with its
threats in order and with their repeats, by naming the media type of the format alone. -/
theorem messages_read_back :
    (∀ (format : Format) (request : LookupRequest), (format = .compact → request.Fits) →
      decode none (some format.mediaType) (write format request) = .ok (format, request)) ∧
    ∀ (format : Format) (response : LookupResponse), (format = .compact → response.Fits) →
      decode none (some format.mediaType) (write format response) = .ok (format, response) :=
  ⟨fun format _ => decode_write_request format, fun format _ => decode_write_response format⟩

/-- A link with a quote, a line feed and a character beyond the basic plane is read back from the
compact format, and so are threats that repeat. -/
theorem messages_read_back_repeats :
    LookupRequest.Fits ⟨"\x22\n😀", [.malware, .unspecified, .malware]⟩ ∧
      decode none (some Format.compact.mediaType) (write .compact
        (⟨"\x22\n😀", [.malware, .unspecified, .malware]⟩ : LookupRequest)) =
          .ok (.compact, (⟨"\x22\n😀", [.malware, .unspecified, .malware]⟩ : LookupRequest)) ∧
      LookupResponse.Fits ⟨[.unwantedSoftware, .unwantedSoftware]⟩ ∧
      decode none (some Format.compact.mediaType) (write .compact
        (⟨[.unwantedSoftware, .unwantedSoftware]⟩ : LookupResponse)) =
          .ok (.compact, (⟨[.unwantedSoftware, .unwantedSoftware]⟩ : LookupResponse)) := by
  have request : LookupRequest.Fits ⟨"\x22\n😀", [.malware, .unspecified, .malware]⟩ :=
    ⟨by decide, by decide⟩
  have response : LookupResponse.Fits ⟨[.unwantedSoftware, .unwantedSoftware]⟩ := by
    unfold LookupResponse.Fits
    decide
  exact ⟨request, messages_read_back.1 .compact _ fun _ => request, response,
    messages_read_back.2 .compact _ fun _ => response⟩

end Message

end LinkGuard
