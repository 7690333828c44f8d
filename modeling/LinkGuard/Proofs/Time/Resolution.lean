import LinkGuard.Proofs.Time.Later

/-!
# Nanoseconds and whole milliseconds

Instants are compared to the nanosecond, but stored times in whole milliseconds. Rounding down
keeps the order up to a millisecond: what is later in whole milliseconds is later, and what is not
is later by less than one.

In leap seconds alone the two orders part. By its nanoseconds a leap second belongs to the second
that it is kept as, and all of it comes before the next one. Its milliseconds are counted on and are
those of the next second again, so that rounding leads from the one second into the other. Counted
in elapsed nanoseconds, which treat leap seconds as the milliseconds do, no exception is left.
-/

namespace LinkGuard.Instant

/-- The instant lies in a leap second. -/
def IsLeap (instant : Instant) : Prop := nanosPerSecond ≤ instant.nanos

/-- The nanoseconds since the beginning of 1970, counted on in leap seconds. -/
def elapsed (instant : Instant) : Int :=
  instant.seconds * nanosPerSecond + instant.nanos

/-- The nanoseconds of a millisecond. -/
def nanosPerMillisecond : Nat := 1000000

/-- What storing leaves of an instant. It is rounded down to whole milliseconds, except in leap
seconds. There the milliseconds are counted on, so that an instant of the next second is left, and
nothing if there is no next second. -/
def rounded? (instant : Instant) : Option Instant :=
  if instant.nanos < nanosPerSecond then
    some ⟨instant.seconds, instant.nanos / nanosPerMillisecond * nanosPerMillisecond⟩
  else if instant.seconds < latestSecond then
    some ⟨instant.seconds + 1,
      (instant.nanos - nanosPerSecond) / nanosPerMillisecond * nanosPerMillisecond⟩
  else none

section Order

variable {left right : Instant}

/-- Stored times are elapsed nanoseconds, rounded down on both sides of 1970. -/
theorem milliseconds_eq_elapsed_div (instant : Instant) :
    instant.milliseconds = instant.elapsed / nanosPerMillisecond := by
  simp only [milliseconds, elapsed, nanosPerSecond, nanosPerMillisecond]
  omega

/-- What is later in whole milliseconds is later, unless it lies in a leap second of an earlier
second. -/
theorem lt_iff_of_milliseconds_lt (lt : left.milliseconds < right.milliseconds) :
    left < right ↔ ¬(right.IsLeap ∧ right.seconds < left.seconds) := by
  simp only [lt_iff, IsLeap, nanosPerSecond, milliseconds] at *
  omega

/-- What is not later in whole milliseconds is later by less than one, unless a leap second of an
earlier second is asked about. -/
theorem lt_plus_of_milliseconds_le (le : left.milliseconds ≤ right.milliseconds)
    (aligned : ¬(right.IsLeap ∧ right.seconds < left.seconds)) :
    left < right.plus nanosPerMillisecond := by
  have spec := plus_spec right nanosPerMillisecond
  simp only [lt_iff, IsLeap, nanosPerSecond, nanosPerMillisecond, milliseconds] at *
  omega

/-- What is not earlier is not so in whole milliseconds either, unless it is compared with a leap
second of an earlier second. -/
theorem milliseconds_le_of_le (le : left ≤ right)
    (aligned : ¬(left.IsLeap ∧ left.seconds < right.seconds)) :
    left.milliseconds ≤ right.milliseconds := by
  rw [← not_lt, lt_iff] at le
  simp only [IsLeap, nanosPerSecond, milliseconds] at *
  omega

theorem elapsed_lt_of_milliseconds_le (le : left.milliseconds ≤ right.milliseconds) :
    left.elapsed < right.elapsed + nanosPerMillisecond := by
  simp only [milliseconds_eq_elapsed_div, nanosPerMillisecond] at *
  omega

end Order

/-- An instant that a duration does not lead behind is not led behind in whole milliseconds either,
since only what begins in a leap second ends in one. -/
theorem after_milliseconds_le_of_not_before {instant : Instant} {duration : Duration}
    (notBefore : ¬instant.before (instant.after duration) = true) :
    (instant.after duration).milliseconds ≤ instant.milliseconds := by
  rw [before_iff_lt] at notBefore
  refine not_lt.mp fun lt => notBefore ((lt_iff_of_milliseconds_lt lt).mpr ?_)
  rintro ⟨leap, earlier⟩
  rcases after_cases instant duration with ⟨after_eq, _⟩ | after_eq
  · have spec := plus_spec instant duration.nanoseconds
    rw [after_eq] at leap earlier
    simp only [IsLeap, nanosPerSecond] at leap
    omega
  · rw [after_eq] at leap
    exact absurd leap (by decide : ¬nanosPerSecond ≤ nanosPerSecond - 1)

section Stored

variable {instant : Instant}

theorem ofMilliseconds?_eq_some {count seconds : Int} {nanos : Nat}
    (representable : earliestSecond ≤ seconds ∧ seconds ≤ latestSecond)
    (seconds_eq : count / 1000 = seconds)
    (nanos_eq : (count % 1000).toNat * nanosPerMillisecond = nanos) :
    ofMilliseconds? count = some ⟨seconds, nanos⟩ := by
  subst seconds_eq nanos_eq
  simp only [ofMilliseconds?, isRepresentable, representable, decide_true, Bool.and_self, if_true]
  rfl

theorem ofMilliseconds?_eq_none {count : Int} (late : latestSecond < count / 1000) :
    ofMilliseconds? count = none := by
  simp only [ofMilliseconds?, isRepresentable, Int.not_le.mpr late, decide_false, Bool.and_false,
    Bool.false_eq_true, if_false]

/-- Stored times are read back as what storing leaves. -/
theorem IsRepresentable.ofMilliseconds?_milliseconds (representable : instant.IsRepresentable) :
    ofMilliseconds? instant.milliseconds = instant.rounded? := by
  rcases representable with ⟨early, late, small⟩
  unfold rounded?
  split_ifs with regular next
  · refine ofMilliseconds?_eq_some ⟨early, late⟩ ?_ ?_
    all_goals
      simp only [milliseconds, nanosPerSecond, nanosPerMillisecond] at *
      omega
  · refine ofMilliseconds?_eq_some ⟨Int.le_add_one early, next⟩ ?_ ?_
    all_goals
      simp only [milliseconds, nanosPerSecond, nanosPerMillisecond] at *
      omega
  · apply ofMilliseconds?_eq_none
    simp only [milliseconds, nanosPerSecond] at *
    omega

/-- Up to the last representable instant something is left. -/
theorem InRange.rounded?_ne_none (inRange : instant.InRange) : instant.rounded? ≠ none := by
  have notBehind := inRange.notBehind
  have positive : 0 < nanosPerSecond := by decide
  simp only [before_iff_lt, lt_iff, latest] at notBehind
  unfold rounded?
  split_ifs with regular next
  · exact Option.some_ne_none _
  · exact Option.some_ne_none _
  · omega

theorem Rounds.of_rounded? {rounded : Instant} (small : instant.nanos < 2 * nanosPerSecond)
    (left : instant.rounded? = some rounded) : rounded.Rounds instant := by
  unfold rounded? at left
  split_ifs at left
  all_goals
    cases left
    refine ⟨?_, Nat.dvd_mul_left _ _, ?_⟩
    all_goals
      simp only [milliseconds, nanosPerSecond, nanosPerMillisecond] at *
      omega

theorem InRange.exists_rounds (inRange : instant.InRange) :
    ∃ rounded, instant.rounded? = some rounded ∧ rounded.Rounds instant := by
  rcases Option.ne_none_iff_exists'.mp inRange.rounded?_ne_none with ⟨rounded, left⟩
  exact ⟨rounded, left, .of_rounded? inRange.nanos left⟩

theorem InRange.rounded?_eq {rounded : Instant} (inRange : instant.InRange)
    (rounds : rounded.Rounds instant) : instant.rounded? = some rounded := by
  rcases inRange.exists_rounds with ⟨other, left, other_rounds⟩
  rw [left, rounds.unique other_rounds]

end Stored

namespace Rounds

variable {instant rounded : Instant}

theorem not_isLeap (rounds : rounded.Rounds instant) : ¬rounded.IsLeap :=
  Nat.not_le.mpr rounds.regular

/-- Only a leap second is rounded to a later instant. -/
theorem le_iff (rounds : rounded.Rounds instant) : rounded ≤ instant ↔ ¬instant.IsLeap := by
  rcases rounds with ⟨same, ⟨whole, whole_eq⟩, regular⟩
  rw [← not_lt, lt_iff, IsLeap]
  simp only [nanosPerSecond, milliseconds] at *
  omega

theorem lt_plus (rounds : rounded.Rounds instant) :
    instant < rounded.plus nanosPerMillisecond :=
  lt_plus_of_milliseconds_le rounds.same.ge fun leap => rounds.not_isLeap leap.1

theorem elapsed_le (rounds : rounded.Rounds instant) : rounded.elapsed ≤ instant.elapsed := by
  rcases rounds with ⟨same, ⟨whole, whole_eq⟩, _⟩
  simp only [milliseconds_eq_elapsed_div, elapsed, nanosPerSecond, nanosPerMillisecond] at *
  omega

end Rounds

end LinkGuard.Instant
