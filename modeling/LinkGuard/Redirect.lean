import LinkGuard.Lookup
import LinkGuard.Url.Parser

/-!
# Redirect decisions

A visitor who follows a link through the server is sent on when nothing is known against the link,
and warned otherwise. The first finding that has a warning fragment decides which warning is shown,
whatever comes later. Findings without any fragment must not look safe, so they are a case of their
own.
-/

namespace LinkGuard

/-- How a visitor is answered. A safe link is kept as it was given, every other one in its parsed
form. -/
inductive Decision where
  | safe (target : String)
  | warned (finding : Finding) (fragment : String) (target : Url)
  | unclassified (threats : List Threat) (target : Url)
  deriving DecidableEq, Repr

namespace Decision

/-- The visitor is sent on. -/
def isSafe : Decision → Bool
  | safe _ => true
  | _ => false

/-- The first finding with a warning fragment, and that fragment. -/
def firstWarning? (findings : List Finding) : Option (Finding × String) :=
  findings.findSome? fun finding => finding.threat.fragment?.map fun fragment => (finding, fragment)

/-- The decision for the findings of one link. -/
def select (given : String) (target : Url) (findings : List Finding) : Decision :=
  if findings.isEmpty then .safe given
  else
    match firstWarning? findings with
    | some (finding, fragment) => .warned finding fragment target
    | none => .unclassified (findings.map Finding.threat) target

end Decision

/-- Why there is no decision. -/
inductive DecisionError where
  | invalidUrl (error : UrlError)
  | engine (error : EngineError)
  deriving DecidableEq, Repr

/-- The text of the error. -/
def DecisionError.message : DecisionError → String
  | invalidUrl error => "invalid url: " ++ error.message
  | engine error => error.message

/-- Reads a link, looks it up as it was given, and decides. -/
def Decision.make (given : String) : Inquiry (Except DecisionError Decision) :=
  match Url.parseTarget given with
  | .error error => .done (.error (.invalidUrl error))
  | .ok target =>
    .lookup [given] fun answer =>
      .done <|
        match soleAnswer answer with
        | .ok findings => .ok (Decision.select given target findings)
        | .error error => .error (.engine error)

end LinkGuard
