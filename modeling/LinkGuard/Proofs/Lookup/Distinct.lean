import LinkGuard.Lookup
import Mathlib.Data.List.Perm.Subperm

/-!
# First appearances

What is kept of a list when repeats are removed is determined by three facts: it holds the same
values, each of them once, and in the order in which the list first shows them. The threats of a
response are those of the findings in this sense, so there are never more than there are categories.
-/

namespace LinkGuard

section Distinct

variable {α : Type} [DecidableEq α] {value : α} {values : List α}

/-- The values of a list, each once and in the order of first appearance. -/
structure FirstAppearances (chosen values : List α) : Prop where
  mem_iff : ∀ value, value ∈ chosen ↔ value ∈ values
  once : chosen.Nodup
  ordered : chosen.Pairwise fun left right => values.idxOf left < values.idxOf right

theorem mem_distinct : value ∈ distinct values ↔ value ∈ values := by
  induction values with
  | nil => exact Iff.rfl
  | cons first rest ih =>
      simp only [distinct, List.mem_cons, List.mem_filter, decide_eq_true_eq, ih]
      constructor
      · rintro (same | ⟨mem, _⟩)
        · exact .inl same
        · exact .inr mem
      · rintro (same | mem)
        · exact .inl same
        · by_cases same : value = first
          · exact .inl same
          · exact .inr ⟨mem, same⟩

theorem ne_of_mem_filter_ne {first : α} (mem : value ∈ values.filter (· ≠ first)) :
    value ≠ first :=
  of_decide_eq_true (List.mem_filter.mp mem).2

theorem nodup_distinct (values : List α) : (distinct values).Nodup := by
  induction values with
  | nil => exact List.nodup_nil
  | cons first rest ih =>
      rw [distinct, List.nodup_cons]
      refine ⟨fun mem => ne_of_mem_filter_ne mem rfl, ?_⟩
      exact ih.sublist List.filter_sublist

theorem pairwise_distinct (values : List α) :
    (distinct values).Pairwise fun left right => values.idxOf left < values.idxOf right := by
  induction values with
  | nil => exact List.Pairwise.nil
  | cons first rest ih =>
      have later {value : α} (mem : value ∈ (distinct rest).filter (· ≠ first)) :
          (first :: rest).idxOf value = rest.idxOf value + 1 :=
        List.idxOf_cons_ne rest (ne_of_mem_filter_ne mem).symm
      rw [distinct, List.pairwise_cons]
      constructor
      · intro value mem
        rw [List.idxOf_cons_self, later mem]
        exact Nat.succ_pos _
      · apply (ih.sublist List.filter_sublist).imp_of_mem
        intro left right leftMem rightMem order
        rw [later leftMem, later rightMem]
        exact Nat.succ_lt_succ order

theorem firstAppearances_distinct (values : List α) :
    FirstAppearances (distinct values) values where
  mem_iff _ := mem_distinct
  once := nodup_distinct values
  ordered := pairwise_distinct values

theorem distinct_append (left right : List α) :
    distinct (left ++ right) = distinct left ++ (distinct right).filter (· ∉ left) := by
  induction left with
  | nil => simp [distinct]
  | cons first rest ih =>
      simp only [List.cons_append, distinct, ih, List.filter_append, List.filter_filter]
      congr 2
      apply List.filter_congr
      intro value _
      simp

/-- A value that was seen before can be left out. -/
theorem distinct_drop {before : List α} (seen : value ∈ before) (after : List α) :
    distinct (before ++ value :: after) = distinct (before ++ after) := by
  have dropped : (distinct (value :: after)).filter (· ∉ before) =
      (distinct after).filter (· ∉ before) := by
    simp only [distinct, List.filter_cons, seen, not_true_eq_false, decide_false,
      Bool.false_eq_true, if_false, List.filter_filter]
    apply List.filter_congr
    intro other _
    by_cases mem : other ∈ before
    · simp [mem]
    · have differs : other ≠ value := by
        rintro rfl
        exact mem seen
      simp [mem, differs]
  rw [distinct_append, distinct_append, dropped]

theorem distinct_perm {left right : List α} (perm : left.Perm right) :
    (distinct left).Perm (distinct right) := by
  apply (List.perm_ext_iff_of_nodup (nodup_distinct left) (nodup_distinct right)).mpr
  intro value
  simp only [mem_distinct]
  exact perm.mem_iff

/-- The values seen so far after one more. -/
def see (seen : List α) (value : α) : List α :=
  if value ∈ seen then seen else seen ++ [value]

theorem see_distinct (before : List α) (value : α) :
    see (distinct before) value = distinct (before ++ [value]) := by
  rw [see, distinct_append]
  by_cases mem : value ∈ before
  · simp [mem_distinct, mem, distinct]
  · simp [mem_distinct, mem, distinct]

/-- Repeats are found in one pass, by what was seen on the way. -/
theorem foldl_see (before values : List α) :
    values.foldl see (distinct before) = distinct (before ++ values) := by
  induction values generalizing before with
  | nil => simp
  | cons first rest ih =>
      rw [List.foldl_cons, see_distinct, ih]
      simp

end Distinct

theorem firstAppearances_aggregate (findings : List Finding) :
    FirstAppearances (aggregate [findings]).threats (findings.map Finding.threat) := by
  have flat : [findings].flatten = findings := List.flatten_singleton
  rw [aggregate, flat]
  exact firstAppearances_distinct _

theorem length_aggregate_le (answer : List (List Finding)) :
    (aggregate answer).threats.length ≤ Threat.all.length := by
  have known : (aggregate answer).threats ⊆ Threat.all := by
    intro threat _
    cases threat <;> decide
  exact (List.subperm_of_subset (nodup_distinct _) known).length_le

end LinkGuard
