import LinkGuard.Proofs.Json.Following
import LinkGuard.Proofs.Message.RoundTrip

/-!
# Requests with threats of newer versions

A client may ask for threats that this version has no name or number for. What such a client writes
is a request all the same, with a link and with whatever it calls the threats. The compact format is
read for its link whatever the numbers are. JSON is read for its link just if all names are those of
known threats.
-/

namespace LinkGuard

open Json

/-- A request as it is written: its threats are what the client calls them, known here or not. -/
structure WrittenRequest (label : Type) where
  uri : String := ""
  labels : List label := []
  deriving DecidableEq, Repr

namespace WrittenRequest

/-- The members of a request whose threats have any names. -/
def shape : Shape (WrittenRequest String) where
  title := "LookupRequest"
  members := [
    ⟨"uri", false, fun request => do pure { request with uri := ← Read.text }⟩,
    ⟨"threatTypes", false, fun request => do
      pure { request with labels := request.labels ++ (← Read.list Read.text) }⟩]
  empty := {}

/-- The fields of a request whose threats have any numbers. -/
def fields : List (Wire.Field (WrittenRequest Nat)) := [
  ⟨1, "SearchUrisRequest.uri", fun kind request bytes => do
    let (uri, rest) ← Wire.readText kind bytes
    .ok ({ request with uri }, rest)⟩,
  ⟨2, "SearchUrisRequest.threat_types", fun kind request bytes => do
    let (numbers, rest) ← Wire.readNumbers kind bytes
    .ok ({ request with labels := request.labels ++ numbers }, rest)⟩]

/-- All names are names of known threats. -/
def Known (names : List String) : Prop :=
  ∀ name ∈ names, ∃ threat : Threat, threat.apiName = name

/-- The body asks about the link in JSON and names these threats. -/
def AsksInJson (body : List UInt8) (uri : String) (names : List String) : Prop :=
  Read.body shape.read body = .ok ⟨uri, names⟩

/-- The body asks about the link in the compact format and numbers these threats. -/
def AsksInCompact (body : List UInt8) (uri : String) (numbers : List Nat) : Prop :=
  Wire.readMessage fields {} body = .ok ⟨uri, numbers⟩

theorem known_append {names more : List String} :
    Known (names ++ more) ↔ Known names ∧ Known more := by
  simp only [Known, List.mem_append, or_imp, forall_and]

theorem known_of_forall₂ {names : List String} {threats : List Threat}
    (named : List.Forall₂ (fun name threat => threat.apiName = name) names threats) :
    Known names := by
  induction named with
  | nil => simp [Known]
  | cons here _ ih =>
      intro name mem
      rcases List.mem_cons.mp mem with rfl | mem
      · exact ⟨_, here⟩
      · exact ih name mem

theorem follows_threat : Follows Read.text Threat.read (fun name threat => threat.apiName = name)
    fun name => ∀ threat : Threat, threat.apiName ≠ name := by
  intro cursor name behind read_eq
  rcases follows_variant _ Threat.ofApiName? cursor name behind read_eq with
    ⟨threat, named, threat_eq⟩ | ⟨unnamed, failed⟩
  · refine .inl ⟨threat, ?_, threat_eq⟩
    simpa using List.find?_some named
  · refine .inr ⟨?_, failed⟩
    rintro threat rfl
    simp at unnamed

/-- A request follows what is written if all names are known. The names add up, so an unknown one
among them is never lost again. -/
theorem follows_request :
    Shape.Follows (fun written request => request.uri = written.uri ∧ Known written.labels)
      (fun written => ¬Known written.labels) shape LookupRequest.shape where
  empty := by
    simp [shape, LookupRequest.shape, Known]
  members := by
    apply List.Forall₂.cons
    · refine ⟨rfl, rfl, ?_⟩
      rintro written request ⟨_, known⟩
      apply Follows.andThen
      intro uri
      exact Follows.pure ⟨rfl, known⟩
    apply List.Forall₂.cons
    · refine ⟨rfl, rfl, ?_⟩
      rintro written request ⟨same, known⟩
      apply Follows.bind follows_threat.list
      · intro names threats named
        exact Follows.pure ⟨same, known_append.mpr ⟨known, known_of_forall₂ named⟩⟩
      · rintro names ⟨name, mem, unknown⟩
        apply Ensures.pure
        intro known
        rcases (known_append.mp known).2 name mem with ⟨threat, named⟩
        exact unknown threat named
    exact List.Forall₂.nil
  stays := by
    intro member mem written unknown
    simp only [shape, List.mem_cons, List.not_mem_nil, or_false] at mem
    rcases mem with rfl | rfl
    · apply Ensures.andThen
      intro uri
      exact Ensures.pure unknown
    · apply Ensures.andThen
      intro names
      apply Ensures.pure
      intro known
      exact unknown (known_append.mp known).1

/-- In JSON a request is read for its link if all its threats are known, and refused if not. -/
theorem AsksInJson.read {body : List UInt8} {uri : String} {names : List String}
    (asks : AsksInJson body uri names) :
    (Known names ∧ ∃ threats, Message.read .json body = .ok (⟨uri, threats⟩ : LookupRequest)) ∨
      ¬Known names ∧ ∃ error, (Message.read .json body : Except CodecError LookupRequest) =
        .error error := by
  rcases follows_request.read.body asks with
    ⟨request, ⟨rfl, known⟩, read_eq⟩ | ⟨unknown, error, read_eq⟩
  · exact .inl ⟨known, request.threats, congrArg (Except.mapError _) read_eq⟩
  · exact .inr ⟨unknown, _, congrArg (Except.mapError _) read_eq⟩

end WrittenRequest

namespace Wire

variable {α β : Type} {fields : List (Field α)} {fields' : List (Field β)} {view : α → β}

/-- The second field does to the views of messages what the first does to messages. -/
structure Field.Shows (view : α → β) (first : Field α) (second : Field β) : Prop where
  tag : second.tag = first.tag
  name : second.name = first.name
  merge : ∀ kind message bytes, second.merge kind (view message) bytes =
    (first.merge kind message bytes).map fun (message, rest) => (view message, rest)

/-- Reading with the second fields gives the view of what the first ones give. -/
theorem readFields_view (shows : List.Forall₂ (Field.Shows view) fields fields') (fuel : Nat)
    (message : α) (bytes : List UInt8) :
    readFields fields' fuel (view message) bytes =
      (readFields fields fuel message bytes).map view := by
  induction fuel generalizing message bytes with
  | zero => cases bytes <;> rfl
  | succ fuel ih =>
      cases bytes with
      | nil => rfl
      | cons byte rest =>
          simp only [readFields, bind, Except.bind]
          cases readKey (byte :: rest) with
          | error problem => rfl
          | ok key =>
              have found := find?_of_forall₂ (fun field => field.tag == key.1.1)
                (fun field => field.tag == key.1.1) shows
                fun first second here => by simp only [here.tag]
              rcases found with ⟨none, none'⟩ | ⟨first, second, here, some, some'⟩
              · simp only [Except.mapError, none, none']
                cases skip (fuel + 1) [] key.1.1 key.1.2 key.2 with
                | error problem => rfl
                | ok rest => exact ih message rest
              · simp only [Except.mapError, some, some', here.name, here.merge]
                cases first.merge key.1.2 message key.2 with
                | error problem => rfl
                | ok merged => exact ih merged.1 merged.2

end Wire

namespace WrittenRequest

theorem ofNumbers_append (numbers more : List Nat) :
    Threat.ofNumbers (numbers ++ more) = Threat.ofNumbers numbers ++ Threat.ofNumbers more := by
  simp [Threat.ofNumbers]

/-- The request that is left when threats with unknown numbers are dropped. -/
def understood (written : WrittenRequest Nat) : LookupRequest :=
  ⟨written.uri, Threat.ofNumbers written.labels⟩

theorem shows_understood :
    List.Forall₂ (Wire.Field.Shows understood) WrittenRequest.fields LookupRequest.fields := by
  apply List.Forall₂.cons
  · refine ⟨rfl, rfl, ?_⟩
    intro kind written bytes
    simp only [bind, Except.bind]
    cases Wire.readText kind bytes <;> rfl
  apply List.Forall₂.cons
  · refine ⟨rfl, rfl, ?_⟩
    intro kind written bytes
    simp only [bind, Except.bind]
    cases Wire.readNumbers kind bytes with
    | error problem => rfl
    | ok read => simp [Except.map, understood, ofNumbers_append]
  exact List.Forall₂.nil

/-- In the compact format a request is read for its link whatever the numbers of its threats are. -/
theorem AsksInCompact.read {body : List UInt8} {uri : String} {numbers : List Nat}
    (asks : AsksInCompact body uri numbers) :
    Message.read .compact body = .ok (⟨uri, Threat.ofNumbers numbers⟩ : LookupRequest) := by
  have read_eq := Wire.readFields_view shows_understood body.length {} body
  have written_eq : Wire.readFields fields body.length {} body = .ok ⟨uri, numbers⟩ := asks
  rw [written_eq] at read_eq
  exact congrArg (Except.mapError _) read_eq

/-- A request in JSON with the names that its client uses. -/
def toJson (written : WrittenRequest String) : String :=
  Json.record [("uri", Json.text written.uri),
    ("threatTypes", Json.list (written.labels.map Json.text))]

/-- A request in the compact format with the numbers that its client uses. -/
def toCompact (written : WrittenRequest Nat) : List UInt8 :=
  Wire.writeKey 1 .chunk ++ Wire.writeChunk (Utf8.encode written.uri) ++
    (Wire.writeKey 2 .chunk ++ Wire.writeChunk (written.labels.flatMap Wire.writeNumber))

/-- For every link and all names there is a body in JSON that asks about the link and has them. -/
theorem asksInJson_toJson (uri : String) (names : List String) :
    AsksInJson (Utf8.encode (toJson ⟨uri, names⟩)) uri names := by
  have link : Reads (do pure ({ uri := ← Read.text } : WrittenRequest String))
      (Utf8.encode (Json.text uri)) { uri } :=
    (reads_text uri).map fun uri => ({ uri } : WrittenRequest String)
  have threats : Reads (do
        pure ({ uri, labels := [] ++ (← Read.list Read.text) } : WrittenRequest String))
      (Utf8.encode (Json.list (names.map Json.text))) ⟨uri, names⟩ :=
    (reads_list fun name _ => reads_text name).map fun names =>
      ({ uri, labels := [] ++ names } : WrittenRequest String)
  apply body_of_reads
  apply reads_record
  apply Shape.Fills.cons rfl rfl link
  apply Shape.Fills.cons rfl rfl threats
  exact Shape.Fills.nil rfl

/-- For every link and all numbers there is a body in the compact format that asks about the link
and has them, if their lengths are those of texts and lists in memory. -/
theorem asksInCompact_toCompact {uri : String} {numbers : List Nat}
    (fits : (Utf8.encode uri).length < Nat.pow 2 64)
    (small : ∀ number ∈ numbers, number < Nat.pow 2 64)
    (few : (numbers.flatMap Wire.writeNumber).length < Nat.pow 2 64) :
    AsksInCompact (toCompact ⟨uri, numbers⟩) uri numbers := by
  apply Wire.Carries.readMessage_eq
  apply Wire.Carries.append
  · apply Wire.Carries.field (by decide) (by decide) rfl
    intro rest
    simp only [Wire.readText_writeChunk fits, bind, Except.bind]
    rfl
  · apply Wire.Carries.field (by decide) (by decide) rfl
    intro rest
    simp only [Wire.readNumbers_writeChunk small few, bind, Except.bind]
    rfl

end WrittenRequest

end LinkGuard
