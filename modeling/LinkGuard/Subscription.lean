import LinkGuard.Text.Blank
import LinkGuard.Threat

/-!
# Subscriptions

A subscription is the list of threats that lookups ask the API about. People write it as names
between commas, or as `ALL`; blanks around names and empty parts carry no meaning, and naming a
threat again adds nothing. The first part that names no concrete threat is the error.
-/

namespace LinkGuard

/-- A name that belongs to no threat. -/
structure UnknownThreat where
  name : String
  deriving DecidableEq, Repr

/-- The text of the error. -/
def UnknownThreat.message (error : UnknownThreat) : String :=
  "unknown threat type: " ++ error.name

/-- Reads one threat name, in any letter case. -/
def Threat.parse (name : String) : Except UnknownThreat Threat :=
  match Threat.ofName? name with
  | some threat => .ok threat
  | none => .error ⟨name⟩

namespace Subscription

/-- The parts of a written list that carry a name. -/
def parts (text : String) : List String :=
  ((Text.split ',' text).map Text.trim).filter (· ≠ "")

/-- Reads one part. The unspecified threat has a name but cannot be subscribed to. -/
def parsePart (part : String) : Except UnknownThreat Threat :=
  match Threat.ofName? part with
  | none | some .unspecified => .error ⟨part⟩
  | some threat => .ok threat

/-- Adds the named threats to those already taken, each once. -/
def collect (taken : List Threat) : List String → Except UnknownThreat (List Threat)
  | [] => .ok taken
  | part :: rest =>
    match parsePart part with
    | .error error => .error error
    | .ok threat => collect (if threat ∈ taken then taken else taken ++ [threat]) rest

/-- Reads a written subscription. An empty text and `ALL` stand for every concrete threat. -/
def parse (text : String) : Except UnknownThreat (List Threat) :=
  let text := Text.trim text
  if text = "" ∨ Text.sameLetters text "ALL" then .ok Threat.concrete
  else collect [] (parts text)

end Subscription

end LinkGuard
