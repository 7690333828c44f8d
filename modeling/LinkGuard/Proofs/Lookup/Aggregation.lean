import LinkGuard.Proofs.Lookup.Distinct

/-!
# Aggregation is stable

The threats of an answer are found in one pass over its findings, which remembers what it has seen.
So they depend on the order of the findings alone: not on the lists in which the findings came, not
on the links they were reported for, and not on repeats. A longer answer keeps what a shorter one
has and adds to its end.
-/

namespace LinkGuard

variable {sets : List (List Finding)}

theorem aggregate_congr {other : List (List Finding)}
    (same : other.flatten.map Finding.threat = sets.flatten.map Finding.threat) :
    aggregate other = aggregate sets := by
  simp only [aggregate, same]

theorem foldl_see_threats (before : List Threat) (sets : List (List Finding)) :
    sets.foldl (fun seen findings =>
        findings.foldl (fun seen finding => see seen finding.threat) seen) (distinct before) =
      distinct (before ++ sets.flatten.map Finding.threat) := by
  induction sets generalizing before with
  | nil => simp
  | cons findings rest ih =>
      have inner : findings.foldl (fun seen finding => see seen finding.threat)
          (distinct before) = distinct (before ++ findings.map Finding.threat) := by
        rw [← foldl_see, List.foldl_map]
      rw [List.foldl_cons, inner, ih]
      simp

/-- The threats of an answer, each once and in the order in which the answer first shows them,
whatever else about the answer changes. -/
structure IsStable (sets : List (List Finding)) : Prop where
  first : FirstAppearances (aggregate sets).threats (sets.flatten.map Finding.threat)
  one_pass : (aggregate sets).threats =
    sets.foldl (fun seen findings =>
      findings.foldl (fun seen finding => see seen finding.threat) seen) []
  /-- The same findings may come in other lists. -/
  regrouped : ∀ other, other.flatten = sets.flatten → aggregate other = aggregate sets
  /-- They may be reported for other links. -/
  readdressed : ∀ other, other.map (List.map Finding.threat) = sets.map (List.map Finding.threat) →
    aggregate other = aggregate sets
  /-- A finding whose threat was reported before may be left out. -/
  repeated : ∀ front before finding after back,
    sets = front ++ (before ++ finding :: after) :: back →
    finding.threat ∈ (front.flatten ++ before).map Finding.threat →
      aggregate (front ++ (before ++ after) :: back) = aggregate sets
  appended : ∀ more, (aggregate (sets ++ more)).threats =
    (aggregate sets).threats ++
      (aggregate more).threats.filter (· ∉ (aggregate sets).threats)
  permuted : ∀ other, other.flatten.Perm sets.flatten →
    (aggregate other).threats.Perm (aggregate sets).threats

theorem aggregate_stable (sets : List (List Finding)) : IsStable sets where
  first := firstAppearances_distinct _
  one_pass := by
    have pass := foldl_see_threats [] sets
    exact pass.symm
  regrouped other same := by
    apply aggregate_congr
    rw [same]
  readdressed other same := by
    apply aggregate_congr
    rw [List.map_flatten, List.map_flatten, same]
  repeated front before finding after back split seen := by
    subst split
    have left := distinct_drop seen (after.map Finding.threat ++ back.flatten.map Finding.threat)
    simp only [aggregate, LookupResponse.mk.injEq]
    simpa using left.symm
  appended more := by
    simp only [aggregate, List.flatten_append, List.map_append, distinct_append, mem_distinct]
  permuted other perm := by
    apply distinct_perm
    exact perm.map Finding.threat

/-- A repeat in another list can be left out, and a new threat goes to the end. -/
theorem aggregate_stable_repeat :
    let first : List (List Finding) := [[⟨.unwantedSoftware, "u"⟩], [⟨.malware, "u"⟩]]
    let repeated : List (List Finding) :=
      [[⟨.unwantedSoftware, "u"⟩], [⟨.malware, "u"⟩, ⟨.unwantedSoftware, "v"⟩]]
    aggregate first = aggregate repeated ∧
      (aggregate (first ++ [[⟨.malware, "w"⟩, ⟨.socialEngineering, "w"⟩]])).threats =
        [.unwantedSoftware, .malware, .socialEngineering] ∧
      [Threat.malware, .unwantedSoftware].Perm (aggregate first).threats := by
  intro first repeated
  refine ⟨?_, ?_, ?_⟩
  · exact (aggregate_stable repeated).repeated [[⟨.unwantedSoftware, "u"⟩]] [⟨.malware, "u"⟩]
      ⟨.unwantedSoftware, "v"⟩ [] [] rfl (by decide)
  · rw [(aggregate_stable first).appended]
    decide
  · exact (aggregate_stable first).permuted [[⟨.malware, "u"⟩, ⟨.unwantedSoftware, "u"⟩]]
      (List.Perm.swap _ _ [])

end LinkGuard
