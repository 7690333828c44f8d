import LinkGuard.Threat.Json
import LinkGuard.Time.Timestamp

/-!
# Verdicts

A verdict is what is known about one link until a given instant: the threats reported for it, in
the order of the report, or none when the link is safe.
-/

namespace LinkGuard

open Json

/-- What is known about a link, and until when. -/
structure Verdict where
  url : String
  threats : List Threat
  expiry : Instant
  deriving DecidableEq, Repr

namespace Verdict

/-- The link was reported as dangerous. -/
def isPositive (verdict : Verdict) : Bool :=
  !verdict.threats.isEmpty

/-- The verdict may still be used. -/
def isFresh (verdict : Verdict) (now : Instant) : Bool :=
  now.before verdict.expiry

/-- The threats as findings for a link. -/
def findings (threats : List Threat) (url : String) : List Finding :=
  threats.map fun threat => ⟨threat, url⟩

/-- A verdict as JSON. -/
def toJson (verdict : Verdict) : String :=
  Json.record [("url", Json.text verdict.url), ("threat_types", Threat.listToJson verdict.threats),
    ("expires_at", Json.text (Timestamp.write verdict.expiry))]

end Verdict

/-- Reads an instant. -/
def Instant.read : Reader Instant :=
  Read.parsed "an RFC 3339 formatted date and time string" fun written =>
    (Timestamp.parse written).mapError fun problem => .refused problem.describe

/-- The members of a verdict. -/
def Verdict.shape : Shape Verdict where
  title := "Verdict"
  members := [
    ⟨"url", true, fun verdict => do pure { verdict with url := ← Read.text }⟩,
    ⟨"threat_types", true, fun verdict => do
      pure { verdict with threats := ← Read.list Threat.read }⟩,
    ⟨"expires_at", true, fun verdict => do pure { verdict with expiry := ← Instant.read }⟩]
  empty := ⟨"", [], ⟨0, 0⟩⟩

end LinkGuard
