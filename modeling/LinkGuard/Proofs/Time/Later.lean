import LinkGuard.Proofs.Time.Range
import Mathlib.Data.Prod.Lex

/-!
# Instants a duration later

Adding a duration to an instant stops at two places. A duration may be too long to be added at all,
and what is added may lead beyond the last representable instant. Both end at this instant, and
since spans that are too long to be added are far longer than all representable time, together they
come to the same as adding without any limit and taking the earlier of the sum and the last
representable instant.

Instants are ordered by their seconds first, so that a leap second counts as a part of the second
that it is kept as. Sums keep to this order: more added never leads to an earlier instant.
-/

namespace LinkGuard.Instant

variable {instant left right : Instant} {nanoseconds : Nat}

/-- What instants are ordered by. -/
def key (instant : Instant) : Lex (Int × Nat) := toLex (instant.seconds, instant.nanos)

theorem key_injective : Function.Injective key := by
  intro left right same
  have parts : (left.seconds, left.nanos) = (right.seconds, right.nanos) := same
  cases left
  cases right
  cases parts
  rfl

instance : LinearOrder Instant := LinearOrder.lift' key key_injective

theorem lt_iff : left < right ↔
    left.seconds < right.seconds ∨ left.seconds = right.seconds ∧ left.nanos < right.nanos :=
  Prod.Lex.toLex_lt_toLex

@[simp]
theorem before_iff_lt : left.before right = true ↔ left < right := by
  simp only [before, lt_iff, Bool.or_eq_true, decide_eq_true_eq, Bool.and_eq_true, beq_iff_eq]

theorem later_eq_max (left right : Instant) : left.later right = max left right := by
  rw [later]
  split
  case isTrue before => exact (max_eq_right (before_iff_lt.mp before).le).symm
  case isFalse notBefore =>
    exact (max_eq_left (not_lt.mp fun lt => notBefore (before_iff_lt.mpr lt))).symm

theorem lt_plus (instant : Instant) (positive : 0 < nanoseconds) :
    instant < instant.plus nanoseconds := by
  have spec := plus_spec instant nanoseconds
  rw [lt_iff]
  omega

/-- More added never leads to an earlier instant. -/
theorem plus_mono (instant : Instant) : Monotone instant.plus := by
  intro less more le
  have spec := plus_spec instant less
  have spec_more := plus_spec instant more
  rw [← not_lt, lt_iff]
  omega

/-- What begins before the last representable instant leads behind it only by leading to a later
second. Otherwise it would end in a leap second of the last second, but it could only have begun
there. -/
theorem latest_lt_plus_iff (early : instant < latest) :
    latest < instant.plus nanoseconds ↔ latestSecond < (instant.plus nanoseconds).seconds := by
  have spec := plus_spec instant nanoseconds
  have latest_seconds : latest.seconds = latestSecond := rfl
  have latest_nanos : latest.nanos = 999999999 := rfl
  rw [lt_iff] at early ⊢
  omega

/-- A span that is too long to be added leads beyond all representable instants. -/
theorem latestSecond_lt_plus (representable : instant.IsRepresentable)
    (long : longestSpan < nanoseconds) : latestSecond < (instant.plus nanoseconds).seconds := by
  have spec := plus_spec instant nanoseconds
  have early := representable.earliest
  have range : latestSecond - earliestSecond < 20000000000000 := by decide
  have span : 30000000000000 * 1000000000 ≤ longestSpan := by decide
  omega

/-- The two places where adding stops come to one limit. -/
theorem after_eq_min (representable : instant.IsRepresentable) (early : instant < latest)
    (duration : Duration) :
    instant.after duration = min (instant.plus duration.nanoseconds) latest := by
  by_cases inRange : (instant.plus duration.nanoseconds).seconds ≤ latestSecond
  · have short : duration.nanoseconds ≤ longestSpan :=
      Nat.not_lt.mp fun long =>
        Int.not_lt.mpr inRange (latestSecond_lt_plus representable long)
    have le : instant.plus duration.nanoseconds ≤ latest :=
      not_lt.mp fun lt => Int.not_lt.mpr inRange ((latest_lt_plus_iff early).mp lt)
    rw [min_eq_left le, after, span?, if_pos short, Option.bind_some, plus?]
    simp only [inRange, if_true, Option.getD_some]
  · have lt := (latest_lt_plus_iff early).mpr (Int.not_le.mp inRange)
    rw [min_eq_right lt.le]
    rcases after_cases instant duration with ⟨_, notBeyond⟩ | after_eq
    · exact absurd notBeyond inRange
    · exact after_eq

end LinkGuard.Instant
