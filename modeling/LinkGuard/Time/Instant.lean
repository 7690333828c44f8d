import LinkGuard.Duration
import LinkGuard.Time.Calendar

/-!
# Instants

An instant is a count of seconds since the beginning of 1970 and the nanoseconds within the second.
A leap second is kept as the second before it with a thousand million nanoseconds or more, so it
sorts behind every instant of that second and before the next one.

Only instants between the first of January of year -262143 and the last of December of year 262142
are representable. Stored times are whole milliseconds, rounded down.
-/

namespace LinkGuard

/-- A point in time. -/
structure Instant where
  seconds : Int
  nanos : Nat
  deriving DecidableEq, Repr

namespace Instant

/-- The nanoseconds of a second. -/
def nanosPerSecond : Nat := 1000000000

/-- The seconds of a day. -/
def secondsPerDay : Int := 86400

/-- The first representable second. -/
def earliestSecond : Int := (Calendar.Date.toDays ⟨-262143, 1, 1⟩) * secondsPerDay

/-- The last representable second. -/
def latestSecond : Int := (Calendar.Date.toDays ⟨262142, 12, 31⟩) * secondsPerDay + 86399

/-- The last representable instant. -/
def latest : Instant := ⟨latestSecond, nanosPerSecond - 1⟩

/-- Whether a second lies in the representable range. -/
def isRepresentable (seconds : Int) : Bool :=
  earliestSecond ≤ seconds && seconds ≤ latestSecond

/-- Earlier than. -/
def before (left right : Instant) : Bool :=
  left.seconds < right.seconds || (left.seconds == right.seconds && left.nanos < right.nanos)

/-- The later of two instants. -/
def later (left right : Instant) : Instant :=
  if left.before right then right else left

/-- The whole milliseconds since the beginning of 1970. -/
def milliseconds (instant : Instant) : Int :=
  instant.seconds * 1000 + (instant.nanos / 1000000 : Nat)

/-- The instant of a count of milliseconds, if it is representable. -/
def ofMilliseconds? (milliseconds : Int) : Option Instant :=
  let seconds := milliseconds / 1000
  if isRepresentable seconds then some ⟨seconds, (milliseconds % 1000).toNat * 1000000⟩ else none

/-- The longest span that can be added: its milliseconds are a signed number of 64 bits. -/
def longestSpan : Nat := (Nat.pow 2 63 - 1) * 1000000

/-- The nanoseconds of a duration, unless it is too long to be added. -/
def span? (duration : Duration) : Option Nat :=
  if duration.nanoseconds ≤ longestSpan then some duration.nanoseconds else none

/-- The instant a number of nanoseconds later, be it representable or not. What begins in a leap
second either stays in it or goes on from its end, where the second that it is kept as ends too. -/
def plus (instant : Instant) (nanoseconds : Nat) : Instant :=
  let nanos := instant.nanos + nanoseconds
  if instant.nanos < nanosPerSecond then
    ⟨instant.seconds + (nanos / nanosPerSecond : Nat), nanos % nanosPerSecond⟩
  else if nanos < 2 * nanosPerSecond then ⟨instant.seconds, nanos⟩
  else ⟨instant.seconds + (nanos / nanosPerSecond - 1 : Nat), nanos % nanosPerSecond⟩

/-- The instant a number of nanoseconds later, if it is representable. -/
def plus? (instant : Instant) (nanoseconds : Nat) : Option Instant :=
  let later := instant.plus nanoseconds
  if later.seconds ≤ latestSecond then some later else none

/-- The instant a duration later. A duration that is too long to be added, or that leads beyond the
last representable instant, leads to this one. -/
def after (instant : Instant) (duration : Duration) : Instant :=
  ((span? duration).bind instant.plus?).getD latest

end Instant

end LinkGuard
