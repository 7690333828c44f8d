import LinkGuard.Proofs.Text.Ascii
import LinkGuard.Proofs.Time.Calendar
import LinkGuard.Proofs.Time.Range

/-!
# Reading written timestamps back

Every representable instant is read back from its timestamp, part by part. The parts of fixed width
are read back because the reader takes as many digits as were written; a year with a sign has any
width and ends at the hyphen behind it; a fraction has as many digits as its last ones that are not
zero call for, and the reader makes up for those left out.
-/

namespace LinkGuard

namespace Timestamp

variable {width value low high nanos : Nat} {rest : List Char} {character : Char}

theorem digitsValue_eq (digits : List Char) : digitsValue digits = Nat.ofDigitChars 10 digits 0 := by
  simp only [digitsValue, Nat.ofDigitChars_eq_foldl, Nat.mul_comm]

theorem isDigit_of_mem_padded (mem : character ∈ padded width value) :
    character.isDigit = true := by
  rcases List.mem_append.mp mem with mem | mem
  · rw [List.eq_of_mem_replicate mem]
    rfl
  · exact Text.isDigit_toDigits character mem

@[simp]
theorem digitsValue_padded (width value : Nat) : digitsValue (padded width value) = value := by
  rw [digitsValue_eq, padded, Nat.ofDigitChars_append, Nat.ofDigitChars_replicate_zero, Nat.mul_zero,
    Nat.ofDigitChars_ten_toDigits]

theorem length_padded (positive : 0 < width) (fits : value < Nat.pow 10 width) :
    (padded width value).length = width := by
  have short := (Nat.length_toDigits_le_iff (by decide) positive).mpr fits
  rw [padded, List.length_append, List.length_replicate]
  omega

theorem exists_padded (width value : Nat) :
    ∃ first others, padded width value = first :: others ∧ first.isDigit = true := by
  have filled : padded width value ≠ [] := by simp [padded, Nat.toDigits_ne_nil]
  rcases List.exists_cons_of_ne_nil filled with ⟨first, others, padded_eq⟩
  exact ⟨first, others, padded_eq, isDigit_of_mem_padded (padded_eq ▸ List.mem_cons_self)⟩

/-- A number of fixed width is read back whatever follows it. -/
theorem number_padded (positive : 0 < width) (fits : value < Nat.pow 10 width)
    (small : value < Nat.pow 2 63) (rest : List Char) :
    number (some width) (padded width value ++ rest) = .ok (value, rest) := by
  rcases exists_padded width value with ⟨first, others, padded_eq, _⟩
  have taken : ((padded width value ++ rest).takeWhile Char.isDigit).take width =
      padded width value := by
    rw [List.takeWhile_append_of_pos fun _ mem => isDigit_of_mem_padded mem]
    exact List.take_left' (length_padded positive fits)
  have filled : padded width value ++ rest ≠ [] := by simp [padded_eq]
  have some : padded width value ≠ [] := by simp [padded_eq]
  rw [number]
  simp only [taken, filled, some, digitsValue_padded, Nat.not_le.mpr small, if_false, List.drop_left]

/-- A number that is no longer than the reader's limit is read back in front of something else than
a digit. -/
theorem number_ended {limit : Option Nat}
    (room : ∀ most, limit = some most → (padded width value).length ≤ most)
    (small : value < Nat.pow 2 63) (other : character.isDigit = false) (rest : List Char) :
    number limit (padded width value ++ character :: rest) = .ok (value, character :: rest) := by
  rcases exists_padded width value with ⟨first, others, padded_eq, _⟩
  have run_eq : (padded width value ++ character :: rest).takeWhile Char.isDigit =
      padded width value := by
    rw [List.takeWhile_append_of_pos fun _ mem => isDigit_of_mem_padded mem,
      List.takeWhile_cons_of_neg (by simp [other]), List.append_nil]
  have filled : padded width value ++ character :: rest ≠ [] := by simp
  have some : padded width value ≠ [] := by simp [padded_eq]
  cases limit with
  | none =>
      simp only [number, run_eq, filled, some, digitsValue_padded, Nat.not_le.mpr small, if_false,
        List.drop_left]
  | some most =>
      simp only [number, run_eq, List.take_of_length_le (room most rfl), filled, some,
        digitsValue_padded, Nat.not_le.mpr small, if_false, List.drop_left]

theorem skipBlanks_cons (visible : Text.isBlank character = false) (rest : List Char) :
    skipBlanks (character :: rest) = character :: rest :=
  List.dropWhile_cons_of_neg (by simp [visible])

theorem isBlank_of_isDigit (digit : character.isDigit = true) : Text.isBlank character = false := by
  have ascii := Text.toNat_lt_of_isAlphanum (Text.isAlphanum_of_isDigit digit)
  revert digit
  exact Text.of_ascii ascii (by decide)

theorem skipBlanks_padded (width value : Nat) (rest : List Char) :
    skipBlanks (padded width value ++ rest) = padded width value ++ rest := by
  rcases exists_padded width value with ⟨first, others, padded_eq, digit⟩
  rw [padded_eq, List.cons_append, skipBlanks_cons (isBlank_of_isDigit digit)]

theorem part_padded (atLeast : low ≤ value) (atMost : value ≤ high) (two : high < 100)
    (rest : List Char) : part low high (padded 2 value ++ rest) = .ok (value, rest) := by
  have fits : value < Nat.pow 10 2 := Nat.lt_of_le_of_lt atMost two
  have small : value < Nat.pow 2 63 := Nat.lt_trans fits (by decide)
  rw [part, skipBlanks_padded, number_padded (by decide) fits small]
  simp only [bind, Except.bind, atLeast, atMost, and_self, if_true]

theorem mark_cons (visible : Text.isBlank character = false) (rest : List Char) :
    mark character (character :: rest) = .ok ((), rest) := by
  rw [mark, skipBlanks_cons visible]
  exact if_pos rfl

/-- A year near the present is read back in front of the hyphen behind it. -/
theorem year_writeYear {written : Int} (near : written.natAbs < 300000) (rest : List Char) :
    year (writeYear written ++ '-' :: rest) = .ok (written, '-' :: rest) := by
  have wide : Int.bmod written (Nat.pow 2 32) = written := by
    have power : Nat.pow 2 32 = 4294967296 := rfl
    rw [power]
    apply Int.bmod_eq_of_le_mul_two <;> omega
  have small : written.natAbs < Nat.pow 2 63 := Nat.lt_trans near (by decide)
  have unlimited (most : Nat) (limited : none = some most) :
      (padded 4 written.natAbs).length ≤ most := by cases limited
  by_cases plain : 0 ≤ written ∧ written ≤ 9999
  · rcases exists_padded 4 written.toNat with ⟨first, others, padded_eq, digit⟩
    have fits : written.toNat < 10000 := by omega
    have read := number_padded (by decide : 0 < 4) fits (Nat.lt_trans fits (by decide)) ('-' :: rest)
    have back : (written.toNat : Int) = written := Int.toNat_of_nonneg plain.1
    rw [year, writeYear, if_pos plain, skipBlanks_padded]
    rw [padded_eq, List.cons_append] at read ⊢
    split
    case h_1 signed =>
      cases signed
      cases digit
    case h_2 signed =>
      cases signed
      cases digit
    case h_3 =>
      simp only [read, Except.map, bind, Except.bind, back, wide, if_true]
  · have read := number_ended unlimited small (by decide : '-'.isDigit = false) rest
    rw [year, writeYear, if_neg plain, List.cons_append]
    by_cases negative : written < 0
    · have back : -(written.natAbs : Int) = written := by omega
      rw [if_pos negative, skipBlanks_cons (by decide)]
      simp only [read, Except.map, bind, Except.bind, back, wide, if_true]
    · have back : (written.natAbs : Int) = written := by omega
      rw [if_neg negative, skipBlanks_cons (by decide)]
      simp only [read, Except.map, bind, Except.bind, back, wide, if_true]

theorem fraction_padded (positive : 0 < width) (short : width ≤ 9) (fits : value < Nat.pow 10 width)
    (other : character.isDigit = false) (rest : List Char) :
    fraction ('.' :: (padded width value ++ character :: rest)) =
      .ok (value * Nat.pow 10 (9 - width), character :: rest) := by
  have small : value < Nat.pow 2 63 :=
    Nat.lt_of_lt_of_le fits (Nat.le_trans (Nat.pow_le_pow_right (by decide) short) (by decide))
  have taken : (padded width value ++ character :: rest).length - (character :: rest).length =
      width := by
    rw [List.length_append, Nat.add_sub_cancel, length_padded positive fits]
  have ended : (character :: rest).dropWhile Char.isDigit = character :: rest :=
    List.dropWhile_cons_of_neg (by simp [other])
  have room : ∀ most, some 9 = some most → (padded width value).length ≤ most := by
    rintro _ ⟨⟩
    rw [length_padded positive fits]
    exact short
  rw [fraction, number_ended room small other]
  simp only [bind, Except.bind, taken, ended]

theorem fraction_writeFraction (regular : nanos < Instant.nanosPerSecond) (rest : List Char) :
    fraction (writeFraction nanos ++ 'Z' :: rest) = .ok (nanos, 'Z' :: rest) := by
  have bound : nanos < 1000000000 := regular
  have letter : 'Z'.isDigit = false := rfl
  rw [writeFraction]
  split
  case isTrue zero =>
    rw [zero]
    rfl
  case isFalse =>
    split
    case isTrue millis =>
      have fits : nanos / 1000000 < 1000 := by omega
      have whole : nanos / 1000000 * Nat.pow 10 (9 - 3) = nanos :=
        Nat.div_mul_cancel (Nat.dvd_of_mod_eq_zero millis)
      rw [List.cons_append, fraction_padded (by decide) (by decide) fits letter, whole]
    case isFalse =>
      split
      case isTrue micros =>
        have fits : nanos / 1000 < 1000000 := by omega
        have whole : nanos / 1000 * Nat.pow 10 (9 - 6) = nanos :=
          Nat.div_mul_cancel (Nat.dvd_of_mod_eq_zero micros)
        rw [List.cons_append, fraction_padded (by decide) (by decide) fits letter, whole]
      case isFalse =>
        have whole : nanos * Nat.pow 10 (9 - 9) = nanos := Nat.mul_one nanos
        rw [List.cons_append, fraction_padded (by decide) (by decide) bound letter, whole]

/-- A time of day, in figures. -/
theorem assemble_ofDays {seconds : Int} (earliest : Instant.earliestSecond ≤ seconds)
    (latest : seconds ≤ Instant.latestSecond) (nanos : Nat) :
    assemble (Calendar.Date.ofDays (seconds / Instant.secondsPerDay))
      (seconds % Instant.secondsPerDay).toNat nanos 0 = .ok ⟨seconds, nanos⟩ := by
  have spec := Calendar.ofDays_spec (seconds / Instant.secondsPerDay)
  have day_eq : Instant.secondsPerDay = 86400 := rfl
  have whole : seconds / Instant.secondsPerDay * Instant.secondsPerDay +
      ((seconds % Instant.secondsPerDay).toNat : Int) = seconds := by
    rw [day_eq]
    omega
  have representable : Instant.isRepresentable seconds = true := by
    simp [Instant.isRepresentable, earliest, latest]
  rw [assemble]
  simp only [spec.1, spec.2, whole, representable, Int.sub_zero, Bool.not_true, Bool.false_eq_true,
    if_false]
  rw [if_neg (by decide)]

theorem natAbs_year_lt {instant : Instant} (representable : instant.IsRepresentable) :
    (Calendar.Date.ofDays (instant.seconds / Instant.secondsPerDay)).year.natAbs < 300000 := by
  have early := representable.earliest
  have late := representable.latest
  have earliest_eq : Instant.earliestSecond = -8334601228800 := by decide
  have latest_eq : Instant.latestSecond = 8210266876799 := by decide
  have day_eq : Instant.secondsPerDay = 86400 := rfl
  rw [day_eq]
  apply Calendar.natAbs_year_lt <;> omega

/-- Every representable instant but a leap second is read back from its timestamp. -/
theorem parse_write {instant : Instant} (representable : instant.IsRepresentable)
    (regular : instant.nanos < Instant.nanosPerSecond) : parse (write instant) = .ok instant := by
  have notLeap : ¬Instant.nanosPerSecond ≤ instant.nanos := Nat.not_le.mpr regular
  have near := natAbs_year_lt representable
  have date := Calendar.ofDays_spec (instant.seconds / Instant.secondsPerDay)
  have bounds := Calendar.bounds_of_exists date.2
  have assembled := assemble_ofDays representable.earliest representable.latest instant.nanos
  have inDay_lt : (instant.seconds % Instant.secondsPerDay).toNat < 86400 := by
    have day_eq : Instant.secondsPerDay = 86400 := rfl
    rw [day_eq]
    omega
  rw [parse, write, String.toList_ofList, writeChars]
  generalize Calendar.Date.ofDays (instant.seconds / Instant.secondsPerDay) = written at *
  generalize (instant.seconds % Instant.secondsPerDay).toNat = inDay at *
  have second_lt : inDay % 60 / 60 = 0 := by omega
  have whole : inDay / 3600 * 3600 + inDay / 60 % 60 * 60 + inDay % 60 = inDay := by omega
  have hyphen : Text.isBlank '-' = false := by decide
  have colon : Text.isBlank ':' = false := by decide
  have month := part_padded bounds.1.1 bounds.1.2 (by decide)
  have day := part_padded bounds.2.1 bounds.2.2 (by decide)
  have hour : ∀ rest, part 0 23 (padded 2 (inDay / 3600) ++ rest) = .ok (inDay / 3600, rest) :=
    part_padded (by omega) (by omega) (by decide)
  have minute : ∀ rest, part 0 59 (padded 2 (inDay / 60 % 60) ++ rest) =
      .ok (inDay / 60 % 60, rest) := part_padded (by omega) (by omega) (by decide)
  have second : ∀ rest, part 0 60 (padded 2 (inDay % 60) ++ rest) = .ok (inDay % 60, rest) :=
    part_padded (by omega) (by omega) (by decide)
  have dateTime (rest : List Char) : separator ('T' :: rest) = .ok ((), rest) := rfl
  have universal : offset (skipBlanks ['Z']) = .ok (0, []) := rfl
  have finished : skipBlanks [] = [] := rfl
  simp only [notLeap, if_false, Nat.add_zero, Nat.zero_mul, Nat.sub_zero, List.append_assoc,
    List.cons_append, List.nil_append]
  simp only [parseChars, year_writeYear near, mark_cons hyphen, mark_cons colon, month, day, dateTime,
    hour, minute, second, fraction_writeFraction regular, universal, finished, bind, Except.bind,
    ne_eq, not_true_eq_false, if_false, second_lt, whole, Nat.sub_zero, Nat.zero_mul, Nat.add_zero]
  exact assembled

example : write ⟨253402300800, 500000000⟩ = "+10000-01-01T00:00:00.500Z" := by decide +kernel

end Timestamp

end LinkGuard
