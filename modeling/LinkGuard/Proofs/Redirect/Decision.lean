import LinkGuard.Redirect

/-!
# The first finding with a fragment decides

A visitor is warned of the first finding that has a warning fragment. The findings in front of it
have none and count for nothing, and neither does whatever is found later. Without any finding the
visitor is sent on, and findings of which none has a fragment are a case of their own.

A decision is reached by one question to the engine at most, and the answer to it counts only if it
is about one link.
-/

namespace LinkGuard.Decision

variable {findings before after : List Finding} {finding : Finding} {fragment given : String}
  {target : Url}

/-- None of the findings has a fragment. -/
def Unregistered (findings : List Finding) : Prop :=
  ∀ finding ∈ findings, finding.threat.fragment? = none

/-- The finding is the first one with a fragment, and has this one. -/
def Leads (finding : Finding) (fragment : String) (findings : List Finding) : Prop :=
  ∃ before after, findings = before ++ finding :: after ∧ Unregistered before ∧
    finding.threat.fragment? = some fragment

theorem firstWarning?_eq_some_iff :
    firstWarning? findings = some (finding, fragment) ↔ Leads finding fragment findings := by
  simp only [firstWarning?, List.findSome?_eq_some_iff, Option.map_eq_some_iff, Prod.mk.injEq,
    Option.map_eq_none_iff]
  constructor
  · rintro ⟨before, found, after, split, ⟨shown, registered, rfl, rfl⟩, unregistered⟩
    exact ⟨before, after, split, unregistered, registered⟩
  · rintro ⟨before, after, split, unregistered, registered⟩
    exact ⟨before, finding, after, split, ⟨fragment, registered, rfl, rfl⟩, unregistered⟩

theorem firstWarning?_eq_none_iff : firstWarning? findings = none ↔ Unregistered findings := by
  simp only [firstWarning?, List.findSome?_eq_none_iff, Option.map_eq_none_iff, Unregistered]

theorem firstWarning?_append (unregistered : ∀ other ∈ before, other.threat.fragment? = none)
    (registered : finding.threat.fragment? = some fragment) :
    firstWarning? (before ++ finding :: after) = some (finding, fragment) :=
  firstWarning?_eq_some_iff.mpr ⟨before, after, rfl, unregistered, registered⟩

theorem firstWarning?_eq_none (unregistered : ∀ other ∈ findings, other.threat.fragment? = none) :
    firstWarning? findings = none :=
  firstWarning?_eq_none_iff.mpr unregistered

theorem select_nil : select given target [] = .safe given :=
  rfl

theorem select_of_firstWarning? (first : firstWarning? findings = some (finding, fragment)) :
    select given target findings = .warned finding fragment target := by
  have filled : findings.isEmpty = false := by
    cases findings with
    | nil => cases first
    | cons => rfl
  simp only [select, filled, Bool.false_eq_true, if_false, first]

theorem select_of_unregistered (filled : findings ≠ [])
    (unregistered : firstWarning? findings = none) :
    select given target findings = .unclassified (findings.map Finding.threat) target := by
  have nonempty : findings.isEmpty = false := List.isEmpty_eq_false_iff.mpr filled
  simp only [select, nonempty, Bool.false_eq_true, if_false, unregistered]

/-- The decision that findings call for. -/
inductive Chosen (given : String) (target : Url) : List Finding → Decision → Prop where
  | safe : Chosen given target [] (.safe given)
  | warned {findings : List Finding} {finding : Finding} {fragment : String}
      (leads : Leads finding fragment findings) :
      Chosen given target findings (.warned finding fragment target)
  | unclassified {findings : List Finding} (filled : findings ≠ [])
      (unregistered : Unregistered findings) :
      Chosen given target findings (.unclassified (findings.map Finding.threat) target)

theorem chosen_select (given : String) (target : Url) (findings : List Finding) :
    Chosen given target findings (select given target findings) := by
  by_cases filled : findings = []
  · subst filled
    exact Chosen.safe
  · cases first : firstWarning? findings with
    | none =>
        rw [select_of_unregistered filled first]
        exact Chosen.unclassified filled (firstWarning?_eq_none_iff.mp first)
    | some warning =>
        rw [select_of_firstWarning? first]
        exact Chosen.warned (firstWarning?_eq_some_iff.mp first)

theorem select_eq_iff {decision : Decision} :
    select given target findings = decision ↔ Chosen given target findings decision := by
  constructor
  · rintro rfl
    exact chosen_select given target findings
  · intro chosen
    cases chosen with
    | safe => exact select_nil
    | warned leads => exact select_of_firstWarning? (firstWarning?_eq_some_iff.mpr leads)
    | unclassified filled unregistered =>
        exact select_of_unregistered filled (firstWarning?_eq_none_iff.mpr unregistered)

/-- How a choice among findings has to fall for a link and its parsed form. -/
structure FollowsFirst (given : String) (target : Url) (choose : List Finding → Decision) :
    Prop where
  safe_iff : ∀ findings link, choose findings = .safe link ↔ findings = [] ∧ link = given
  warned_iff : ∀ findings finding fragment shown,
    choose findings = .warned finding fragment shown ↔
      shown = target ∧ Leads finding fragment findings
  unclassified_iff : ∀ findings threats shown,
    choose findings = .unclassified threats shown ↔
      shown = target ∧ threats = findings.map Finding.threat ∧ findings ≠ [] ∧
        Unregistered findings
  /-- Neither other findings without a fragment in front of the first one with a fragment nor
  other findings behind it make a difference. -/
  unmoved : ∀ before before' finding after after',
    Unregistered before → Unregistered before' → finding.threat.fragment? ≠ none →
      choose (before' ++ finding :: after') = choose (before ++ finding :: after)

theorem followsFirst_select (given : String) (target : Url) :
    FollowsFirst given target (select given target) where
  safe_iff findings link := by
    rw [select_eq_iff]
    constructor
    · intro chosen
      cases chosen with
      | safe => exact ⟨rfl, rfl⟩
    · rintro ⟨rfl, rfl⟩
      exact Chosen.safe
  warned_iff findings finding fragment shown := by
    rw [select_eq_iff]
    constructor
    · intro chosen
      cases chosen with
      | warned leads => exact ⟨rfl, leads⟩
    · rintro ⟨rfl, leads⟩
      exact Chosen.warned leads
  unclassified_iff findings threats shown := by
    rw [select_eq_iff]
    constructor
    · intro chosen
      cases chosen with
      | unclassified filled unregistered => exact ⟨rfl, rfl, filled, unregistered⟩
    · rintro ⟨rfl, rfl, filled, unregistered⟩
      exact Chosen.unclassified filled unregistered
  unmoved before before' finding after after' unregistered unregistered' registered := by
    rcases Option.ne_none_iff_exists'.mp registered with ⟨fragment, registered⟩
    rw [select_of_firstWarning? (firstWarning?_append unregistered registered),
      select_of_firstWarning? (firstWarning?_append unregistered' registered)]

/-- What the engine's answer about a link comes to. -/
def conclude (given : String) (target : Url) (answer : EngineAnswer) :
    Except DecisionError Decision :=
  match soleAnswer answer with
  | .ok findings => .ok (select given target findings)
  | .error error => .error (.engine error)

theorem conclude_miscounted {lists : List (List Finding)} (miscounted : lists.length ≠ 1) :
    conclude given target (.ok lists) = .error (.engine (.wrongCount lists.length)) := by
  cases lists with
  | nil => rfl
  | cons findings rest =>
      cases rest with
      | nil => exact absurd rfl miscounted
      | cons second rest => rfl

theorem make_of_invalid {error : UrlError} (invalid : Url.parseTarget given = .error error) :
    make given = .done (.error (.invalidUrl error)) := by
  simp only [make, invalid]

theorem make_of_parsed (parsed : Url.parseTarget given = .ok target) :
    make given = .lookup [given] fun answer => .done (conclude given target answer) := by
  simp only [make, parsed]
  refine congrArg (Inquiry.lookup [given]) (funext fun answer => ?_)
  unfold conclude
  cases soleAnswer answer with
  | ok findings => rfl
  | error error => rfl

/-- A link that cannot be read is refused without a question. About any other one the engine is
asked once, its failures are passed on, and the decision follows its only list of findings. -/
theorem make_follows_first (given : String) :
    (∀ target, FollowsFirst given target (select given target)) ∧
      (∀ error, Url.parseTarget given = .error error →
        make given = .done (.error (.invalidUrl error))) ∧
      ∀ target, Url.parseTarget given = .ok target →
        ∃ decided : EngineAnswer → Except DecisionError Decision,
          make given = .lookup [given] (fun answer => .done (decided answer)) ∧
            (∀ error, decided (.error error) = .error (.engine error)) ∧
            (∀ lists, lists.length ≠ 1 →
              decided (.ok lists) = .error (.engine
                (.malformed ("expected 1 result set, got " ++ toString lists.length)))) ∧
            ∀ findings, decided (.ok [findings]) = .ok (select given target findings) := by
  refine ⟨followsFirst_select given, fun error invalid => make_of_invalid invalid, ?_⟩
  intro target parsed
  refine ⟨conclude given target, make_of_parsed parsed, ?_, ?_, ?_⟩
  · intro error
    rfl
  · intro lists miscounted
    exact conclude_miscounted miscounted
  · intro findings
    rfl

/-- The warning for a deceptive site is shown although malware is found behind it, and a link that
cannot be read is not asked about. -/
theorem make_follows_first_deceptive :
    (∃ error, make "http://[::1" = .done (.error (.invalidUrl error))) ∧
      ∃ (target : Url) (decided : EngineAnswer → Except DecisionError Decision),
        make "bad.example" = .lookup ["bad.example"] (fun answer => .done (decided answer)) ∧
          decided (.ok [[⟨.unspecified, "bad.example"⟩, ⟨.socialEngineering, "bad.example"⟩,
              ⟨.malware, "bad.example"⟩]]) =
            .ok (.warned ⟨.socialEngineering, "bad.example"⟩ "/social_engineering.tmpl" target) ∧
          decided (.ok [[], []]) =
            .error (.engine (.malformed "expected 1 result set, got 2")) := by
  have unreadable : (Url.parseTarget "http://[::1").isOk = false := by decide +kernel
  have readable : (Url.parseTarget "bad.example").isOk = true := by decide +kernel
  constructor
  · cases parsed : Url.parseTarget "http://[::1" with
    | error error => exact ⟨error, (make_follows_first "http://[::1").2.1 error parsed⟩
    | ok target =>
        rw [parsed] at unreadable
        cases unreadable
  · rcases make_follows_first "bad.example" with ⟨follows, _, asks⟩
    cases parsed : Url.parseTarget "bad.example" with
    | error error =>
        rw [parsed] at readable
        cases readable
    | ok target =>
        rcases asks target parsed with ⟨decided, asked, _, miscounted, single⟩
        refine ⟨target, decided, asked, ?_, miscounted [[], []] (by decide)⟩
        rw [single]
        apply congrArg
        apply ((follows target).warned_iff _ _ _ _).mpr
        refine ⟨rfl, [⟨.unspecified, "bad.example"⟩], [⟨.malware, "bad.example"⟩], rfl, ?_, rfl⟩
        simp [Unregistered, Threat.fragment?]

end LinkGuard.Decision
