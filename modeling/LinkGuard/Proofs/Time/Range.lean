import LinkGuard.Cache.File
import LinkGuard.Proofs.Outcome
import LinkGuard.Time.Timestamp

/-!
# The range of instants

Instants that are read from timestamps and instants that are computed from the present lie in the
range of representable ones. Stored times of such instants are far below the greatest stored
integer, so they can be read back.
-/

namespace LinkGuard

namespace Instant

/-- The instant lies in the representable range; its nanoseconds may be those of a leap second. -/
structure IsRepresentable (instant : Instant) : Prop where
  earliest : earliestSecond ≤ instant.seconds
  latest : instant.seconds ≤ latestSecond
  nanos : instant.nanos < 2 * nanosPerSecond

/-- The instant is not behind the last representable one either, as a leap second of its second
would be. -/
structure InRange (instant : Instant) : Prop extends instant.IsRepresentable where
  notBehind : ¬Instant.latest.before instant = true

/-- The first instant has the whole milliseconds of the second and nothing else, and it lies in no
leap second. Outside of leap seconds it is the second rounded down. For a leap second, in which the
milliseconds are counted on, it lies in the next second and so is later. -/
structure Rounds (rounded instant : Instant) : Prop where
  same : rounded.milliseconds = instant.milliseconds
  whole : 1000000 ∣ rounded.nanos
  regular : rounded.nanos < nanosPerSecond

variable {instant : Instant}

theorem milliseconds_le (instant : Instant) (small : instant.nanos < 2 * nanosPerSecond) :
    instant.milliseconds ≤ instant.seconds * 1000 + 1999 := by
  have below : instant.nanos < 2 * 1000000000 := small
  rw [milliseconds]
  omega

theorem milliseconds_le_greatestStored (late : instant.seconds ≤ latestSecond)
    (small : instant.nanos < 2 * nanosPerSecond) :
    instant.milliseconds ≤ Cache.greatestStored := by
  have bound := milliseconds_le instant small
  have enough : latestSecond * 1000 + 1999 ≤ Cache.greatestStored := by decide
  omega

theorem Rounds.unique {rounded other : Instant} (first : rounded.Rounds instant)
    (second : other.Rounds instant) : rounded = other := by
  rcases first with ⟨same, ⟨whole, whole_eq⟩, regular⟩
  rcases second with ⟨same', ⟨whole', whole_eq'⟩, regular'⟩
  cases rounded
  cases other
  simp only [milliseconds, nanosPerSecond] at *
  rw [mk.injEq]
  omega

/-- The three ways of adding, in figures. -/
theorem plus_spec (instant : Instant) (nanoseconds : Nat) :
    let nanos := instant.nanos + nanoseconds
    let sum := instant.plus nanoseconds
    (instant.nanos < 1000000000 ∧ sum.seconds = instant.seconds + (nanos / 1000000000 : Nat) ∧
      sum.nanos = nanos % 1000000000) ∨
    (1000000000 ≤ instant.nanos ∧ nanos < 2000000000 ∧ sum.seconds = instant.seconds ∧
      sum.nanos = nanos) ∨
    (1000000000 ≤ instant.nanos ∧ 2000000000 ≤ nanos ∧
      sum.seconds = instant.seconds + (nanos / 1000000000 - 1 : Nat) ∧
      sum.nanos = nanos % 1000000000) := by
  intro nanos sum
  have sum_eq : sum = instant.plus nanoseconds := rfl
  rw [plus] at sum_eq
  split at sum_eq
  case isTrue regular =>
    rw [sum_eq]
    exact .inl ⟨regular, rfl, rfl⟩
  case isFalse leap =>
    split at sum_eq
    case isTrue inside =>
      rw [sum_eq]
      exact .inr (.inl ⟨Nat.not_lt.mp leap, inside, rfl, rfl⟩)
    case isFalse outside =>
      rw [sum_eq]
      exact .inr (.inr ⟨Nat.not_lt.mp leap, Nat.not_lt.mp outside, rfl, rfl⟩)

/-- A duration later is what is added to the instant, or the last representable instant. -/
theorem after_cases (instant : Instant) (duration : Duration) :
    (instant.after duration = instant.plus duration.nanoseconds ∧
      (instant.plus duration.nanoseconds).seconds ≤ latestSecond) ∨
    instant.after duration = latest := by
  unfold after span? plus?
  split
  · simp only [Option.bind_some]
    split
    case isTrue inRange => exact .inl ⟨rfl, inRange⟩
    case isFalse => exact .inr rfl
  · exact .inr rfl

theorem after_seconds_le (instant : Instant) (duration : Duration) :
    (instant.after duration).seconds ≤ latestSecond := by
  rcases after_cases instant duration with ⟨after_eq, inRange⟩ | after_eq
  · rw [after_eq]
    exact inRange
  · rw [after_eq]
    exact Int.le_refl _

theorem after_nanos_lt (instant : Instant) (duration : Duration) :
    (instant.after duration).nanos < 2 * nanosPerSecond := by
  rcases after_cases instant duration with ⟨after_eq, _⟩ | after_eq
  · have spec := plus_spec instant duration.nanoseconds
    have second_eq : nanosPerSecond = 1000000000 := rfl
    rw [after_eq]
    omega
  · rw [after_eq]
    decide

theorem later_eq_or (left right : Instant) :
    left.later right = left ∨ left.later right = right := by
  rw [later]
  split
  · exact .inr rfl
  · exact .inl rfl

end Instant

namespace Timestamp

theorem digit_le {digit : Char} (isDigit : digit.isDigit = true) :
    digit.toNat - '0'.toNat ≤ 9 := by
  simp only [Char.isDigit, Bool.and_eq_true, decide_eq_true_eq, ge_iff_le,
    UInt32.le_iff_toNat_le] at isDigit
  change 48 ≤ digit.val.toNat ∧ digit.val.toNat ≤ 57 at isDigit
  change digit.val.toNat - 48 ≤ 9
  omega

theorem digitsValue_lt {digits : List Char} (all : ∀ digit ∈ digits, digit.isDigit = true) :
    digitsValue digits < Nat.pow 10 digits.length := by
  have folded : ∀ value, digits.foldl
      (fun value digit => value * 10 + (digit.toNat - '0'.toNat)) value <
        (value + 1) * Nat.pow 10 digits.length := by
    induction digits with
    | nil =>
        intro value
        simp
    | cons digit digits ih =>
        intro value
        have small := digit_le (all digit List.mem_cons_self)
        have tail := ih (fun other mem => all other (List.mem_cons_of_mem _ mem))
          (value * 10 + (digit.toNat - '0'.toNat))
        have tenfold : Nat.pow 10 (digits.length + 1) = 10 * Nat.pow 10 digits.length :=
          Nat.mul_comm _ _
        rw [List.foldl_cons, List.length_cons, tenfold]
        refine Nat.lt_of_lt_of_le tail ?_
        rw [← Nat.mul_assoc]
        exact Nat.mul_le_mul_right _ (by omega)
  have from0 := folded 0
  rwa [Nat.zero_add, Nat.one_mul] at from0

/-- A number of bounded width is followed by what is left behind its digits. -/
theorem number_bound {width value : Nat} {written rest : List Char}
    (read : number (some width) written = .ok (value, rest)) :
    ∃ taken, taken ≤ width ∧ taken ≤ written.length ∧ rest = written.drop taken ∧
      value < Nat.pow 10 taken := by
  unfold number at read
  simp only at read
  have all : ∀ digit ∈ (written.takeWhile Char.isDigit).take width, digit.isDigit = true := by
    intro digit mem
    exact List.all_eq_true.mp List.all_takeWhile digit (List.mem_of_mem_take mem)
  have bound := digitsValue_lt all
  split at read
  · cases read
  · split at read
    · cases read
    · split at read
      · cases read
      · have parts := Prod.mk.inj (Except.ok.inj read)
        refine ⟨((written.takeWhile Char.isDigit).take width).length, ?_, ?_, parts.2.symm, ?_⟩
        · rw [List.length_take]
          exact Nat.min_le_left _ _
        · rw [List.length_take]
          exact Nat.le_trans (Nat.min_le_right _ _) (List.takeWhile_sublist _).length_le
        · rw [← parts.1]
          exact bound

theorem fraction_lt {nanos : Nat} {written rest : List Char}
    (read : fraction written = .ok (nanos, rest)) : nanos < Instant.nanosPerSecond := by
  unfold fraction at read
  split at read
  case h_1 digits =>
    rcases exists_of_bind_eq_ok read with ⟨⟨value, behind⟩, number_eq, ok⟩
    rcases number_bound number_eq with ⟨taken, few, inside, rfl, small⟩
    have nanos_eq := (Prod.mk.inj (Except.ok.inj ok)).1
    have count : digits.length - (digits.drop taken).length = taken := by
      rw [List.length_drop]
      omega
    rw [count] at nanos_eq
    have powers : 10 ^ taken * 10 ^ (9 - taken) = Instant.nanosPerSecond := by
      rw [← Nat.pow_add, Nat.add_sub_cancel' few]
      rfl
    rw [← nanos_eq, ← powers]
    exact Nat.mul_lt_mul_of_pos_right small (Nat.pow_pos (by decide))
  case h_2 =>
    have nanos_eq := (Prod.mk.inj (Except.ok.inj read)).1
    rw [← nanos_eq]
    decide

theorem part_le {low high value : Nat} {written rest : List Char}
    (read : part low high written = .ok (value, rest)) : value ≤ high := by
  rcases exists_of_bind_eq_ok read with ⟨⟨found, behind⟩, _, ok⟩
  by_cases within : low ≤ found ∧ found ≤ high
  · simp only [within, and_self, if_true] at ok
    rw [← (Prod.mk.inj (Except.ok.inj ok)).1]
    exact within.2
  · simp only [within, if_false] at ok
    cases ok

theorem assemble_isRepresentable {date : Calendar.Date} {secondOfDay nanos : Nat} {offset : Int}
    {instant : Instant} (small : nanos < 2 * Instant.nanosPerSecond)
    (assembled : assemble date secondOfDay nanos offset = .ok instant) :
    instant.IsRepresentable := by
  unfold assemble at assembled
  simp only at assembled
  split at assembled
  · cases assembled
  · split at assembled
    · cases assembled
    · split at assembled
      · cases assembled
      · split at assembled
        · cases assembled
        · rename_i representable
          cases assembled
          simp only [Instant.isRepresentable, Bool.not_eq_true', Bool.not_eq_false,
            Bool.and_eq_true, decide_eq_true_eq] at representable
          exact ⟨representable.1, representable.2, small⟩

/-- Instants that are read from timestamps are representable. -/
theorem parse_isRepresentable {written : String} {instant : Instant}
    (parsed : parse written = .ok instant) : instant.IsRepresentable := by
  rw [parse, parseChars] at parsed
  rcases exists_of_bind_eq_ok parsed with ⟨⟨year, rest₁⟩, _, parsed⟩
  rcases exists_of_bind_eq_ok parsed with ⟨⟨_, rest₂⟩, _, parsed⟩
  rcases exists_of_bind_eq_ok parsed with ⟨⟨month, rest₃⟩, _, parsed⟩
  rcases exists_of_bind_eq_ok parsed with ⟨⟨_, rest₄⟩, _, parsed⟩
  rcases exists_of_bind_eq_ok parsed with ⟨⟨day, rest₅⟩, _, parsed⟩
  rcases exists_of_bind_eq_ok parsed with ⟨⟨_, rest₆⟩, _, parsed⟩
  rcases exists_of_bind_eq_ok parsed with ⟨⟨hour, rest₇⟩, _, parsed⟩
  rcases exists_of_bind_eq_ok parsed with ⟨⟨_, rest₈⟩, _, parsed⟩
  rcases exists_of_bind_eq_ok parsed with ⟨⟨minute, rest₉⟩, _, parsed⟩
  rcases exists_of_bind_eq_ok parsed with ⟨⟨_, rest₁₀⟩, _, parsed⟩
  rcases exists_of_bind_eq_ok parsed with ⟨⟨second, rest₁₁⟩, second_eq, parsed⟩
  rcases exists_of_bind_eq_ok parsed with ⟨⟨nanos, rest₁₂⟩, nanos_eq, parsed⟩
  rcases exists_of_bind_eq_ok parsed with ⟨⟨offset, rest₁₃⟩, _, parsed⟩
  have second_le := part_le second_eq
  have nanos_lt := fraction_lt nanos_eq
  simp only at parsed
  split at parsed
  · cases parsed
  · refine assemble_isRepresentable ?_ parsed
    have leap_le : second / 60 ≤ 1 := by omega
    have leap : second / 60 * Instant.nanosPerSecond ≤ 1 * Instant.nanosPerSecond :=
      Nat.mul_le_mul_right _ leap_le
    omega

end Timestamp

end LinkGuard
