import LinkGuard.Text.Letters

/-!
# Threats

A threat is a category into which a link can be classified. The same category has several
spellings, one for each place where it is written: the API name in JSON and in settings, a number
in the compact format, a title on warning pages, and the warning fragment shown to visitors.

`unspecified` is the category that an API may report but nobody can subscribe to, and it is the
only one without a warning fragment.
-/

namespace LinkGuard

/-- A category of dangerous link. -/
inductive Threat where
  | unspecified
  | malware
  | socialEngineering
  | unwantedSoftware
  | socialEngineeringExtendedCoverage
  deriving DecidableEq, Repr, Inhabited

namespace Threat

/-- Every category, in the order of their numbers. -/
def all : List Threat :=
  [unspecified, malware, socialEngineering, unwantedSoftware, socialEngineeringExtendedCoverage]

/-- The categories one can subscribe to. -/
def concrete : List Threat :=
  [malware, socialEngineering, unwantedSoftware, socialEngineeringExtendedCoverage]

/-- The name in JSON, in settings and in messages. -/
def apiName : Threat → String
  | unspecified => "THREAT_TYPE_UNSPECIFIED"
  | malware => "MALWARE"
  | socialEngineering => "SOCIAL_ENGINEERING"
  | unwantedSoftware => "UNWANTED_SOFTWARE"
  | socialEngineeringExtendedCoverage => "SOCIAL_ENGINEERING_EXTENDED_COVERAGE"

/-- The title on warning pages. -/
def title : Threat → String
  | unspecified => "Unknown threat"
  | malware => "Malware"
  | socialEngineering => "Deceptive site"
  | unwantedSoftware => "Unwanted software"
  | socialEngineeringExtendedCoverage => "Deceptive site"

/-- The number in the compact format. -/
def number : Threat → Nat
  | unspecified => 0
  | malware => 1
  | socialEngineering => 2
  | unwantedSoftware => 3
  | socialEngineeringExtendedCoverage => 4

/-- The category with a number; newer numbers have none. -/
def ofNumber? (number : Int) : Option Threat :=
  all.find? fun threat => (threat.number : Int) = number

/-- The category with exactly this API name. -/
def ofApiName? (name : String) : Option Threat :=
  all.find? fun threat => threat.apiName = name

/-- The category with this API name up to the case of letters. -/
def ofName? (name : String) : Option Threat :=
  all.find? fun threat => Text.sameLetters threat.apiName name

/-- The warning fragment of a category. Both kinds of social engineering share one. -/
def fragment? : Threat → Option String
  | unspecified => none
  | malware => some "/malware.tmpl"
  | unwantedSoftware => some "/unwanted.tmpl"
  | socialEngineering | socialEngineeringExtendedCoverage => some "/social_engineering.tmpl"

@[simp]
theorem ofNumber?_number (threat : Threat) : ofNumber? threat.number = some threat := by
  cases threat <;> rfl

@[simp]
theorem ofApiName?_apiName (threat : Threat) : ofApiName? threat.apiName = some threat := by
  cases threat <;> decide

@[simp]
theorem mem_concrete {threat : Threat} : threat ∈ concrete ↔ threat ≠ unspecified := by
  cases threat <;> decide

end Threat

/-- One category reported for one link. -/
structure Finding where
  threat : Threat
  url : String
  deriving DecidableEq, Repr

end LinkGuard
