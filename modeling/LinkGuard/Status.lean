import LinkGuard.Json.Record
import LinkGuard.Json.Write

/-!
# Status

A threat engine counts its lookups and remembers its most recent failure. The status page shows
both; an engine without a failure shows an empty error text.
-/

namespace LinkGuard

open Json

/-- Why an engine has no answer. -/
inductive EngineError where
  | cancelled
  | unavailable (reason : String)
  | malformed (reason : String)
  deriving DecidableEq, Repr

/-- The text of the error. -/
def EngineError.message : EngineError → String
  | cancelled => "lookup cancelled"
  | unavailable reason => reason
  | malformed reason => "malformed engine result: " ++ reason

/-- How many lookups were answered from the cache, asked of the API and failed, and how many
verdicts the cache holds. -/
structure Stats where
  byCache : Nat := 0
  byApi : Nat := 0
  failed : Nat := 0
  cached : Nat := 0
  deriving DecidableEq, Repr, Inhabited

/-- Counters as JSON. -/
def Stats.toJson (stats : Stats) : String :=
  Json.record [("QueriesByCache", Json.natural stats.byCache),
    ("QueriesByAPI", Json.natural stats.byApi), ("QueriesFail", Json.natural stats.failed),
    ("CachedVerdicts", Json.natural stats.cached)]

/-- The members of the counters. -/
def Stats.shape : Shape Stats where
  title := "Stats"
  members := [
    ⟨"QueriesByCache", true, fun stats => do pure { stats with byCache := ← Read.natural }⟩,
    ⟨"QueriesByAPI", true, fun stats => do pure { stats with byApi := ← Read.natural }⟩,
    ⟨"QueriesFail", true, fun stats => do pure { stats with failed := ← Read.natural }⟩,
    ⟨"CachedVerdicts", true, fun stats => do pure { stats with cached := ← Read.natural }⟩]
  empty := {}

/-- What the status page shows. -/
structure Status where
  stats : Stats
  error : String
  deriving DecidableEq, Repr

/-- The status of an engine with these counters and this last failure. -/
def Status.report (stats : Stats) (error : Option EngineError) : Status :=
  ⟨stats, (error.map EngineError.message).getD ""⟩

/-- A status as JSON. -/
def Status.toJson (status : Status) : String :=
  Json.record [("Stats", status.stats.toJson), ("Error", Json.text status.error)]

/-- The members of a status. -/
def Status.shape : Shape Status where
  title := "StatusResponse"
  members := [
    ⟨"Stats", true, fun status => do pure { status with stats := ← Stats.shape.read }⟩,
    ⟨"Error", true, fun status => do pure { status with error := ← Read.text }⟩]
  empty := ⟨{}, ""⟩

end LinkGuard
