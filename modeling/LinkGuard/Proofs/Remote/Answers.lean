import LinkGuard.Proofs.Json.Ensures
import LinkGuard.Proofs.Time.Resolution
import LinkGuard.Remote.Engine

/-!
# Answers of the API

What a reply means depends on its kind: one equation for each is all that is needed of it.

The time that an answer of the API names is read from a timestamp, so it is representable, and the
times that the settings add end at the last representable instant. Whatever an answer says, its
verdict therefore expires at a time that the cache can store and read back.
-/

namespace LinkGuard.Remote

open Json

section Replies

variable {client : Client}

theorem Client.interpret_unfetched (unfetched : client.searchUrl.scheme ∉ fetchedSchemes)
    (url : String) (reply : Reply) :
    client.interpret url reply =
      .error (.http ("builder error" ++ shownUrl (client.requestUrl url))) :=
  if_pos unfetched

theorem Client.interpret_unreachable (fetched : client.searchUrl.scheme ∈ fetchedSchemes)
    (url : String) :
    client.interpret url .unreachable =
      .error (.http ("error sending request" ++ shownUrl (client.requestUrl url))) :=
  if_neg (not_not_intro fetched)

theorem Client.interpret_response (fetched : client.searchUrl.scheme ∈ fetchedSchemes)
    (url : String) (status : Nat) (body : Option (List UInt8)) :
    client.interpret url (.response status body) =
      if 200 ≤ status ∧ status < 300 then
        match body.bind Answer.read? with
        | some answer => .ok answer
        | none =>
          .error (.http ("error decoding response body" ++ shownUrl (client.requestUrl url)))
      else .error (.status status (failureText body)) :=
  if_neg (not_not_intro fetched)

/-- A body that can be read is the answer. -/
theorem Client.interpret_read (fetched : client.searchUrl.scheme ∈ fetchedSchemes) (url : String)
    {status : Nat} {body : List UInt8} {report : Option Report}
    (success : 200 ≤ status ∧ status < 300)
    (read : Json.Read.body bodyShape.read body = .ok report) :
    client.interpret url (.response status (some body)) = .ok (.ofReport report) := by
  have read?_eq : Answer.read? body = some (.ofReport report) := by
    rw [Answer.read?, read]
  rw [interpret_response fetched, if_pos success, Option.bind_some, read?_eq]

end Replies

theorem ensures_instant : Ensures Instant.read Instant.IsRepresentable := by
  apply Ensures.parsed
  intro written value read_eq
  cases parsed : Timestamp.parse written with
  | error problem =>
      rw [parsed] at read_eq
      cases read_eq
  | ok instant =>
      rw [parsed] at read_eq
      cases read_eq
      exact Timestamp.parse_isRepresentable parsed

theorem Report.keeps_expiry :
    Report.shape.Keeps fun report => ∀ expiry ∈ report.expiry, expiry.IsRepresentable where
  empty := by
    intro expiry mem
    cases mem
  members := by
    intro member mem report here
    simp only [Report.shape, List.mem_cons, List.not_mem_nil, or_false] at mem
    rcases mem with rfl | rfl
    · exact Ensures.andThen fun names => Ensures.pure here
    · exact Ensures.bind (Ensures.optional ensures_instant) fun expiry there => Ensures.pure there

theorem keeps_bodyShape :
    bodyShape.Keeps fun found =>
      ∀ report ∈ found, ∀ expiry ∈ report.expiry, expiry.IsRepresentable where
  empty := by
    intro report mem
    cases mem
  members := by
    intro member mem found here
    simp only [bodyShape, List.mem_singleton] at mem
    subst mem
    exact Ensures.optional Report.keeps_expiry.read

variable {setup : Setup} {url : String} {reply : Reply} {answer : Answer} {now expiry : Instant}

theorem Answer.expiry_of_read? {body : List UInt8} (read : Answer.read? body = some answer) :
    ∀ expiry ∈ answer.expiry, expiry.IsRepresentable := by
  rw [Answer.read?] at read
  split at read
  case h_1 found body_eq =>
    have promised := keeps_bodyShape.read.body body_eq
    cases read
    cases found with
    | none =>
        intro expiry mem
        cases mem
    | some report => exact promised report rfl
  case h_2 => cases read

theorem Client.expiry_of_interpret (interpreted : setup.client.interpret url reply = .ok answer) :
    ∀ expiry ∈ answer.expiry, expiry.IsRepresentable := by
  unfold Client.interpret at interpreted
  simp only at interpreted
  split at interpreted
  · cases interpreted
  · split at interpreted
    · cases interpreted
    · split at interpreted
      · split at interpreted
        case h_1 found read_eq =>
          cases interpreted
          rcases Option.bind_eq_some_iff.mp read_eq with ⟨body, _, read⟩
          exact Answer.expiry_of_read? read
        case h_2 => cases interpreted
      · cases interpreted

/-- A verdict expires at a time that can be stored and read back. -/
theorem Setup.expiry_le_greatestStored
    (interpreted : setup.client.interpret url reply = .ok answer)
    (expires : setup.expiry answer now = some expiry) :
    expiry.milliseconds ≤ Cache.greatestStored := by
  have computed (duration : Duration) :
      (now.after duration).milliseconds ≤ Cache.greatestStored := by
    exact Instant.milliseconds_le_greatestStored (Instant.after_seconds_le now duration)
      (Instant.after_nanos_lt now duration)
  rw [Setup.expiry] at expires
  split at expires
  · split at expires
    · cases expires
    · cases expires
      exact computed setup.negativeTtl
  · simp only at expires
    split at expires
    · cases expires
      cases told : answer.expiry with
      | none => exact computed setup.positiveTtl
      | some given =>
          have representable := Client.expiry_of_interpret interpreted given told
          rcases Instant.later_eq_or given (now.after setup.positiveTtl) with later_eq | later_eq
          · simp only [Option.map_some, Option.getD_some, later_eq]
            exact Instant.milliseconds_le_greatestStored representable.latest representable.nanos
          · simp only [Option.map_some, Option.getD_some, later_eq]
            exact computed setup.positiveTtl
    · cases expires

/-- A verdict that is not fresh on arrival has expired in whole milliseconds too. -/
theorem Setup.expiry_le_of_not_fresh (expires : setup.expiry answer now = some expiry)
    (stale : ¬now.before expiry = true) : expiry.milliseconds ≤ now.milliseconds := by
  rw [Setup.expiry] at expires
  split at expires
  · split at expires
    · cases expires
    · cases expires
      exact Instant.after_milliseconds_le_of_not_before stale
  · simp only at expires
    split at expires
    case isTrue early =>
      cases expires
      exact absurd early stale
    case isFalse => cases expires

end LinkGuard.Remote
