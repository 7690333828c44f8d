import LinkGuard.Json.Record
import LinkGuard.Json.Write
import LinkGuard.Threat

/-!
# Threats and findings as JSON

A threat is written as its API name and read back by exactly that name. A finding is a record of
the threat and the link it was reported for.
-/

namespace LinkGuard

open Json

/-- A threat as JSON. -/
def Threat.toJson (threat : Threat) : String :=
  Json.text threat.apiName

/-- Reads a threat. -/
def Threat.read : Reader Threat :=
  Read.variant (Threat.all.map Threat.apiName) Threat.ofApiName?

/-- A list of threats as JSON. -/
def Threat.listToJson (threats : List Threat) : String :=
  Json.list (threats.map Threat.toJson)

/-- A finding as JSON. -/
def Finding.toJson (finding : Finding) : String :=
  Json.record [("threatType", finding.threat.toJson), ("url", Json.text finding.url)]

/-- The members of a finding. -/
def Finding.shape : Shape Finding where
  title := "ThreatMatch"
  members := [
    ⟨"threatType", true, fun finding => do pure { finding with threat := ← Threat.read }⟩,
    ⟨"url", true, fun finding => do pure { finding with url := ← Read.text }⟩]
  empty := ⟨.unspecified, ""⟩

end LinkGuard
