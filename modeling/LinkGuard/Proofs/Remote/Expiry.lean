import LinkGuard.Proofs.Remote.Faults
import LinkGuard.Proofs.Time.Later
import Mathlib.Order.MinMax

/-!
# When verdicts expire

The settings give two times. A link against which nothing is known is left alone for the one, and
not at all if this is zero. A dangerous link stays dangerous for the other at least, and for longer
if the API says so. Times that the engine computes end at the last representable instant. The time
of the API is taken as it is: a leap second of the last representable second lies behind that
instant and can be read from an answer all the same.

A verdict is stored if there is a time up to which it holds, which then is still ahead.
-/

namespace LinkGuard.Remote

/-- How the verdicts of answers that arrive at an instant expire, and which of them are stored. -/
structure Setup.Expires (setup : Setup) (now : Instant) : Prop where
  /-- Without threats the time of the settings counts, whatever the answer says. -/
  safe : ∀ answer : Answer, answer.threats = [] →
    setup.expiry answer now = if setup.negativeTtl = .zero then none
      else some (min (now.plus setup.negativeTtl.nanoseconds) .latest)
  /-- With threats the later of both times counts, if it is still ahead. -/
  dangerous : ∀ answer : Answer, answer.threats ≠ [] →
    let floor := min (now.plus setup.positiveTtl.nanoseconds) .latest
    let expiry := answer.expiry.elim floor (max · floor)
    setup.expiry answer now = if now < expiry then some expiry else none
  ahead : ∀ answer expiry, setup.expiry answer now = some expiry → now < expiry
  within : ∀ answer expiry, setup.expiry answer now = some expiry →
    expiry ≤ .latest ∨ answer.threats ≠ [] ∧ answer.expiry = some expiry
  notBelow : ∀ answer expiry, answer.threats ≠ [] → setup.expiry answer now = some expiry →
    min (now.plus setup.positiveTtl.nanoseconds) .latest ≤ expiry
  longer : ∀ answer expiry (ttl : Duration), answer.threats ≠ [] →
    setup.positiveTtl.nanoseconds ≤ ttl.nanoseconds → setup.expiry answer now = some expiry →
      ∃ later, Setup.expiry { setup with positiveTtl := ttl } answer now = some later ∧
        expiry ≤ later
  /-- The next step after an answer is to store its verdict exactly if there is an expiry. -/
  stores : ∀ url reply answer state verdict, setup.client.interpret url reply = .ok answer →
    ((State.receive setup url reply now state).1 = .storing verdict ↔
      ∃ expiry, setup.expiry answer now = some expiry ∧ verdict = ⟨url, answer.threats, expiry⟩)
  /-- What a lookup leaves in a cache that had no verdict for it. -/
  leaves : ∀ (attempt : Attempt) answer state, attempt.answered = now →
    (∀ threats, ¬ attempt.IsServed state.cache threats) →
    setup.client.interpret attempt.url attempt.reply = .ok answer →
      (attempt.run setup state).state.cache =
        match setup.expiry answer now with
        | some expiry =>
          (attempt.faults.put ⟨attempt.url, answer.threats, expiry⟩ state.cache).toOption.getD
            state.cache
        | none => state.cache

variable {setup : Setup} {answer : Answer} {now expiry : Instant}

namespace Setup

theorem expiry_safe (representable : now.IsRepresentable) (early : now < .latest)
    (safe : answer.threats = []) :
    setup.expiry answer now = if setup.negativeTtl = .zero then none
      else some (min (now.plus setup.negativeTtl.nanoseconds) .latest) := by
  rw [expiry, safe, List.isEmpty_nil, if_pos rfl, Instant.after_eq_min representable early]

theorem expiry_dangerous (representable : now.IsRepresentable) (early : now < .latest)
    (dangerous : answer.threats ≠ []) :
    let floor := min (now.plus setup.positiveTtl.nanoseconds) .latest
    let expiry := answer.expiry.elim floor (max · floor)
    setup.expiry answer now = if now < expiry then some expiry else none := by
  have notEmpty : answer.threats.isEmpty = false := List.isEmpty_eq_false_iff.mpr dangerous
  intro floor last
  have last_eq : (answer.expiry.map (·.later floor)).getD floor = last := by
    cases told : answer.expiry with
    | none => simp only [last, told, Option.map_none, Option.getD_none, Option.elim_none]
    | some given =>
        simp only [last, told, Option.map_some, Option.getD_some, Option.elim_some,
          Instant.later_eq_max]
  simp only [Setup.expiry, notEmpty, Bool.false_eq_true, if_false,
    Instant.after_eq_min representable early, Instant.before_iff_lt]
  rw [last_eq]

/-- With threats the expiry is the later of both times, and it is ahead. -/
theorem expiry_eq_some_iff (representable : now.IsRepresentable) (early : now < .latest)
    (dangerous : answer.threats ≠ []) :
    setup.expiry answer now = some expiry ↔ now < expiry ∧
      let floor := min (now.plus setup.positiveTtl.nanoseconds) .latest
      answer.expiry.elim floor (max · floor) = expiry := by
  rw [expiry_dangerous representable early dangerous]
  simp only [Option.ite_none_right_eq_some, Option.some.injEq]
  constructor
  · rintro ⟨ahead, rfl⟩
    exact ⟨ahead, rfl⟩
  · rintro ⟨ahead, rfl⟩
    exact ⟨ahead, rfl⟩

theorem lt_expiry (representable : now.IsRepresentable) (early : now < .latest)
    (expires : setup.expiry answer now = some expiry) : now < expiry := by
  by_cases safe : answer.threats = []
  · rw [expiry_safe representable early safe] at expires
    split at expires
    case isTrue => cases expires
    case isFalse kept =>
      cases expires
      have positive : 0 < setup.negativeTtl.nanoseconds :=
        Nat.pos_of_ne_zero fun zero => kept (congrArg Duration.mk zero)
      exact lt_min (now.lt_plus positive) early
  · exact ((expiry_eq_some_iff representable early safe).mp expires).1

theorem expiry_le_latest (representable : now.IsRepresentable) (early : now < .latest)
    (expires : setup.expiry answer now = some expiry) :
    expiry ≤ .latest ∨ answer.threats ≠ [] ∧ answer.expiry = some expiry := by
  by_cases safe : answer.threats = []
  · rw [expiry_safe representable early safe] at expires
    split at expires
    · cases expires
    · cases expires
      exact .inl (min_le_right _ _)
  · rcases (expiry_eq_some_iff representable early safe).mp expires with ⟨_, rfl⟩
    cases told : answer.expiry with
    | none => exact .inl (min_le_right _ _)
    | some given =>
        rcases max_choice given (min (now.plus setup.positiveTtl.nanoseconds) .latest) with
          max_eq | max_eq
        · exact .inr ⟨safe, congrArg some max_eq.symm⟩
        · refine .inl ?_
          rw [Option.elim_some, max_eq]
          exact min_le_right _ _

theorem floor_le_expiry (representable : now.IsRepresentable) (early : now < .latest)
    (dangerous : answer.threats ≠ []) (expires : setup.expiry answer now = some expiry) :
    min (now.plus setup.positiveTtl.nanoseconds) .latest ≤ expiry := by
  rcases (expiry_eq_some_iff representable early dangerous).mp expires with ⟨_, rfl⟩
  cases answer.expiry with
  | none => exact le_rfl
  | some given => exact le_max_right _ _

theorem expiry_mono (representable : now.IsRepresentable) (early : now < .latest)
    (dangerous : answer.threats ≠ []) {ttl : Duration}
    (le : setup.positiveTtl.nanoseconds ≤ ttl.nanoseconds)
    (expires : setup.expiry answer now = some expiry) :
    ∃ later, Setup.expiry { setup with positiveTtl := ttl } answer now = some later ∧
      expiry ≤ later := by
  rcases (expiry_eq_some_iff representable early dangerous).mp expires with ⟨ahead, rfl⟩
  have floor_le : min (now.plus setup.positiveTtl.nanoseconds) .latest ≤
      min (now.plus ttl.nanoseconds) .latest :=
    min_le_min_right _ (now.plus_mono le)
  have expiry_le : answer.expiry.elim (min (now.plus setup.positiveTtl.nanoseconds) .latest)
      (max · (min (now.plus setup.positiveTtl.nanoseconds) .latest)) ≤
      answer.expiry.elim (min (now.plus ttl.nanoseconds) .latest)
        (max · (min (now.plus ttl.nanoseconds) .latest)) := by
    cases answer.expiry with
    | none => exact floor_le
    | some given => exact max_le_max_left given floor_le
  refine ⟨_, ?_, expiry_le⟩
  exact (expiry_eq_some_iff representable early dangerous).mpr
    ⟨ahead.trans_le expiry_le, rfl⟩

theorem isFresh_expiry (representable : now.IsRepresentable) (early : now < .latest)
    (expires : setup.expiry answer now = some expiry) (url : String) :
    (⟨url, answer.threats, expiry⟩ : Verdict).isFresh now = true :=
  Instant.before_iff_lt.mpr (lt_expiry representable early expires)

theorem receive_storing_iff (representable : now.IsRepresentable) (early : now < .latest)
    {url : String} {reply : Reply} {state : State} {verdict : Verdict}
    (interpreted : setup.client.interpret url reply = .ok answer) :
    (State.receive setup url reply now state).1 = .storing verdict ↔
      ∃ expiry, setup.expiry answer now = some expiry ∧
        verdict = ⟨url, answer.threats, expiry⟩ := by
  constructor
  · intro storing
    exact State.receive_storing interpreted (Prod.ext storing rfl)
  · rintro ⟨expiry, expires, rfl⟩
    have fresh := isFresh_expiry representable early expires url
    simp only [State.receive, interpreted, expires, Option.getD_some, fresh, if_true]

theorem rememberOver_eq (representable : now.IsRepresentable) (early : now < .latest)
    (faults : Faults) (url : String) (cache : Cache.File) :
    State.rememberOver faults setup url answer now cache =
      match setup.expiry answer now with
      | some expiry => (faults.put ⟨url, answer.threats, expiry⟩ cache).toOption.getD cache
      | none => cache := by
  cases expires : setup.expiry answer now with
  | none =>
      have stale : (⟨url, answer.threats, now⟩ : Verdict).isFresh now = false := by
        simp [Verdict.isFresh, Instant.before]
      simp only [State.rememberOver, expires, Option.getD_none, stale, Bool.false_eq_true,
        if_false]
  | some expiry =>
      have fresh := isFresh_expiry representable early expires url
      simp only [State.rememberOver, expires, Option.getD_some, fresh, if_true]

end Setup

/-- At every instant before the last representable one, verdicts expire at the time that the
settings and the API give, and those are stored that have such a time. -/
theorem Setup.expires_at (setup : Setup) {now : Instant} (representable : now.IsRepresentable)
    (early : now < .latest) : setup.Expires now where
  safe _ safe := expiry_safe representable early safe
  dangerous _ dangerous := expiry_dangerous representable early dangerous
  ahead _ _ expires := lt_expiry representable early expires
  within _ _ expires := expiry_le_latest representable early expires
  notBelow _ _ dangerous expires := floor_le_expiry representable early dangerous expires
  longer _ _ _ dangerous le expires := expiry_mono representable early dangerous le expires
  stores _ _ _ _ _ interpreted := receive_storing_iff representable early interpreted
  leaves attempt answer state arrived unserved interpreted := by
    rw [Attempt.run_missing (Attempt.missing_of_not_isServed unserved),
      State.concludeOver_answer _ interpreted, arrived]
    exact rememberOver_eq representable early attempt.faults attempt.url state.cache

/-- In the last representable second the longest time that settings can give ends at the last
representable instant, and the shortest one a nanosecond later. -/
theorem Setup.expires_at_lastSecond :
    ∃ setup : Setup, setup.positiveTtl = .ofSeconds (Nat.pow 2 64 - 1) ∧ setup.negativeTtl = ⟨1⟩ ∧
      Instant.IsRepresentable ⟨Instant.latestSecond, 0⟩ ∧
      (⟨Instant.latestSecond, 0⟩ : Instant) < .latest ∧
      setup.expiry ⟨[.malware], some ⟨0, 0⟩⟩ ⟨Instant.latestSecond, 0⟩ = some .latest ∧
      setup.expiry {} ⟨Instant.latestSecond, 0⟩ = some ⟨Instant.latestSecond, 1⟩ := by
  let setup : Setup :=
    ⟨⟨{ scheme := "https" }, "key", [], false⟩, .ofSeconds (Nat.pow 2 64 - 1), ⟨1⟩⟩
  have representable : Instant.IsRepresentable ⟨Instant.latestSecond, 0⟩ :=
    ⟨by decide, le_rfl, by decide⟩
  have early : (⟨Instant.latestSecond, 0⟩ : Instant) < .latest :=
    Instant.before_iff_lt.mp (by decide)
  have past : (⟨0, 0⟩ : Instant) < .latest := Instant.before_iff_lt.mp (by decide)
  have beyond : Instant.latest <
      Instant.plus ⟨Instant.latestSecond, 0⟩ setup.positiveTtl.nanoseconds :=
    Instant.before_iff_lt.mp (by decide +kernel)
  have sum_eq : Instant.plus ⟨Instant.latestSecond, 0⟩ setup.negativeTtl.nanoseconds =
      ⟨Instant.latestSecond, 1⟩ := by
    decide +kernel
  have inside : (⟨Instant.latestSecond, 1⟩ : Instant) < .latest :=
    Instant.before_iff_lt.mp (by decide)
  have expires := Setup.expires_at setup representable early
  refine ⟨setup, rfl, rfl, representable, early, ?_, ?_⟩
  · rw [expires.dangerous _ (List.cons_ne_nil _ _), min_eq_right beyond.le, Option.elim_some,
      max_eq_right past.le, if_pos early]
  · rw [expires.safe {} rfl, if_neg (by decide), sum_eq, min_eq_left inside.le]

/-- An answer whose time is the leap second of the last representable second is stored with this
time, which is behind the last representable instant. -/
theorem Setup.expiry_behind_latest :
    ∃ (setup : Setup) (body : List UInt8) (verdict : Verdict),
      body = Utf8.encode ("\x7b\x22threat\x22:\x7b\x22threatTypes\x22:[\x22MALWARE\x22]," ++
        "\x22expireTime\x22:\x22+262142-12-31T23:59:60Z\x22\x7d\x7d") ∧
      (State.receive setup "u" (.response 200 (some body)) ⟨0, 0⟩ { cache := {} }).1 =
        .storing verdict ∧
      Instant.latest < verdict.expiry := by
  let report : Report := ⟨["MALWARE"], some ⟨Instant.latestSecond, 1000000000⟩⟩
  have readable : ∃ body : List UInt8,
      body = Utf8.encode ("\x7b\x22threat\x22:\x7b\x22threatTypes\x22:[\x22MALWARE\x22]," ++
        "\x22expireTime\x22:\x22+262142-12-31T23:59:60Z\x22\x7d\x7d") ∧
      Json.Read.body bodyShape.read body = .ok (some report) := by
    refine ⟨_, rfl, ?_⟩
    apply eq_ok_of_toOption
    decide +kernel
  have kept : ∃ setup : Setup, setup.client.searchUrl.scheme ∈ fetchedSchemes ∧
      setup.expiry (.ofReport (some report)) ⟨0, 0⟩ = some ⟨Instant.latestSecond, 1000000000⟩ :=
    ⟨⟨⟨{ scheme := "https" }, "key", [], false⟩, .zero, .zero⟩, by decide, by decide +kernel⟩
  rcases readable with ⟨body, body_eq, read⟩
  rcases kept with ⟨setup, fetched, expires⟩
  have interpreted := Client.interpret_read fetched "u" (by decide : 200 ≤ 200 ∧ 200 < 300) read
  have epoch : Instant.IsRepresentable ⟨0, 0⟩ := ⟨by decide, by decide, by decide⟩
  have early : (⟨0, 0⟩ : Instant) < .latest := Instant.before_iff_lt.mp (by decide)
  refine ⟨setup, body, ⟨"u", (Answer.ofReport (some report)).threats,
    ⟨Instant.latestSecond, 1000000000⟩⟩, body_eq, ?_, Instant.before_iff_lt.mp (by decide)⟩
  exact (receive_storing_iff epoch early interpreted).mpr ⟨_, expires, rfl⟩

end LinkGuard.Remote
