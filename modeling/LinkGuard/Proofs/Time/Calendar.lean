import LinkGuard.Time.Instant

/-!
# Dates and day counts

The date of a day count is a date of the calendar, and it has this day count. The year is the one
whose days hold the day: the estimate is off by at most one, and the one step behind it corrects
that. Within the year the lengths of the months are used up from the front.
-/

namespace LinkGuard.Calendar

variable {lengths : List Nat} {day month : Nat}

/-- How many days a year has. -/
theorem daysBeforeYear_succ (year : Int) :
    daysBeforeYear (year + 1) =
      daysBeforeYear year + ((monthLengths (isLeap year)).foldl (· + ·) 0 : Nat) := by
  have length_eq (leap : Bool) :
      (monthLengths leap).foldl (· + ·) 0 = if leap then 366 else 365 := by
    cases leap <;> rfl
  rw [length_eq]
  simp only [daysBeforeYear, isLeap, Bool.and_eq_true, Bool.or_eq_true, beq_iff_eq, bne_iff_ne]
  split <;> omega

/-- The days before a year differ from those of years of mean length by less than two. -/
theorem daysBeforeYear_bounds (year : Int) :
    146097 * (year - 1) - 699 ≤ 400 * daysBeforeYear year ∧
      400 * daysBeforeYear year ≤ 146097 * (year - 1) + 396 := by
  simp only [daysBeforeYear]
  omega

/-- The year of a day holds it. -/
theorem yearOf_spec (day : Int) :
    daysBeforeYear (yearOf day) ≤ day ∧ day < daysBeforeYear (yearOf day + 1) := by
  rw [yearOf]
  generalize estimate_eq : day * 400 / 146097 + 1 = estimate
  have before := daysBeforeYear_bounds (estimate - 1)
  have behind := daysBeforeYear_bounds (estimate + 1 + 1)
  have same : estimate - 1 + 1 = estimate := by omega
  split
  case isTrue early =>
    rw [same]
    exact ⟨by omega, early⟩
  case isFalse notEarly =>
    split
    case isTrue late => exact ⟨late, by omega⟩
    case isFalse notLate => exact ⟨by omega, by omega⟩

/-- The month that is found holds what the months before it leave of the day. -/
theorem locate_spec (inside : day < lengths.foldl (· + ·) 0) (month : Nat) :
    ∃ passed, (locate month day lengths).1 = month + passed ∧
      (lengths.take passed).foldl (· + ·) (locate month day lengths).2 = day ∧
      ∃ length, lengths[passed]? = some length ∧ (locate month day lengths).2 < length := by
  induction lengths generalizing month day with
  | nil => exact absurd inside (Nat.not_lt_zero day)
  | cons length lengths ih =>
      rw [locate]
      by_cases found : day < length
      · rw [if_pos found]
        exact ⟨0, rfl, rfl, length, rfl, found⟩
      · rw [if_neg found]
        rw [List.foldl_cons, Nat.add_comm, List.foldl_assoc] at inside
        have others : day - length < lengths.foldl (· + ·) 0 := by omega
        rcases ih others (month + 1) with ⟨passed, month_eq, day_eq, found⟩
        refine ⟨passed + 1, by rw [month_eq]; omega, ?_, found⟩
        rw [List.take_succ_cons, List.foldl_cons, Nat.add_comm, List.foldl_assoc, day_eq]
        omega

/-- The date of a day count is a date of the calendar and has this count. -/
theorem ofDays_spec (days : Int) :
    (Date.ofDays days).toDays = days ∧ (Date.ofDays days).exists = true := by
  have year := yearOf_spec (days + epoch)
  have next := daysBeforeYear_succ (yearOf (days + epoch))
  have inside : (days + epoch - daysBeforeYear (yearOf (days + epoch))).toNat <
      (monthLengths (isLeap (yearOf (days + epoch)))).foldl (· + ·) 0 := by omega
  rcases locate_spec inside 1 with ⟨passed, month_eq, day_eq, length, length_eq, found⟩
  rw [Date.ofDays]
  simp only [Date.toDays, Date.exists, month_eq, Nat.add_sub_cancel, Nat.add_sub_cancel_left, day_eq,
    length_eq, Option.any_some]
  constructor
  · omega
  · simp only [Bool.and_eq_true, decide_eq_true_eq]
    omega

theorem bounds_of_exists {date : Date} (isDate : date.exists = true) :
    (1 ≤ date.month ∧ date.month ≤ 12) ∧ 1 ≤ date.day ∧ date.day ≤ 31 := by
  simp only [Date.exists, Bool.and_eq_true, decide_eq_true_eq, Option.any_eq_true] at isDate
  rcases isDate with ⟨⟨month, day⟩, length, length_eq, day_le⟩
  have short (leap : Bool) : ∀ length ∈ monthLengths leap, length ≤ 31 := by
    cases leap <;> decide
  have length_le := short _ length (List.mem_of_getElem? length_eq)
  have index_lt : date.month - 1 < 12 := (List.getElem?_eq_some_iff.mp length_eq).1
  omega

/-- Days near the present lie in years near the present. -/
theorem natAbs_year_lt {days : Int} (lower : -100000000 ≤ days) (upper : days ≤ 100000000) :
    (Date.ofDays days).year.natAbs < 300000 := by
  have year_eq : (Date.ofDays days).year = yearOf (days + epoch) := rfl
  have spec := yearOf_spec (days + epoch)
  have before := daysBeforeYear_bounds (yearOf (days + epoch))
  have behind := daysBeforeYear_bounds (yearOf (days + epoch) + 1)
  have epoch_eq : epoch = 719162 := rfl
  omega

end LinkGuard.Calendar
