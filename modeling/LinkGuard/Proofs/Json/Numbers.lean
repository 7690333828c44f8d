import LinkGuard.Proofs.Json.Reading
import LinkGuard.Proofs.Text.Ascii

/-!
# Reading written numbers back

A whole number of up to 64 bits is read back from its digits. Nothing is dropped on the way, since
the first digits of a number that fits make a number that fits, and a zero in front has no digits
behind it.
-/

namespace LinkGuard.Json

variable {value significand : Nat} {digits : List Char} {digit : Char} {rest : List UInt8}

/-- The byte of an ASCII character. -/
def byteOf (character : Char) : UInt8 := character.toNat.toUInt8

namespace Number

theorem byteOf_spec (isDigit : digit.isDigit = true) :
    Utf8.encodeChar digit = [byteOf digit] ∧ Number.isDigit (byteOf digit) = true ∧
      digitValue (byteOf digit) = digit.toNat - '0'.toNat ∧ (byteOf digit = 0x30 → digit = '0') := by
  have ascii := Text.toNat_lt_of_isAlphanum (Text.isAlphanum_of_isDigit isDigit)
  revert isDigit
  exact Text.of_ascii ascii (by decide)

theorem encode_natural (value : Nat) :
    Utf8.encode (Json.natural value) = (Nat.toDigits 10 value).map byteOf := by
  have each : ∀ digit ∈ Nat.toDigits 10 value, Utf8.encodeChar digit = [byteOf digit] :=
    fun digit mem => (byteOf_spec (Text.isDigit_toDigits digit mem)).1
  rw [Json.natural, Nat.toString_eq_repr, Utf8.encode, Nat.toList_repr, Utf8.encodeChars,
    List.flatMap_def, List.map_congr_left each, ← List.flatMap_def, ← List.map_eq_flatMap]

/-- A number with a zero in front is zero. -/
theorem eq_nil_of_zero {others : List Char} (digits_eq : Nat.toDigits 10 value = '0' :: others) :
    others = [] := by
  induction value using Nat.strongRecOn generalizing others with
  | ind value ih =>
      rw [Nat.toDigits_eq_if (by decide)] at digits_eq
      split at digits_eq
      case isTrue => exact (List.cons.inj digits_eq).2.symm
      case isFalse large =>
        rcases List.exists_cons_of_ne_nil (Nat.toDigits_ne_nil (b := 10) (n := value / 10)) with
          ⟨first, front, front_eq⟩
        rw [front_eq, List.cons_append, List.cons.injEq] at digits_eq
        rw [digits_eq.1] at front_eq
        have zero := Nat.ofDigitChars_ten_toDigits (n := value / 10)
        rw [front_eq, ih (value / 10) (by omega) front_eq] at zero
        have none : Nat.ofDigitChars 10 ['0'] 0 = 0 := rfl
        omega

/-- All digits of a number that fits 64 bits are taken. -/
theorem extend_eq (all : ∀ digit ∈ digits, digit.isDigit = true)
    (fits : Nat.ofDigitChars 10 digits significand ≤ largest) (taken : Nat) :
    extend significand taken (digits.map byteOf) =
      (Nat.ofDigitChars 10 digits significand, taken + digits.length) := by
  induction digits generalizing significand taken with
  | nil => rfl
  | cons digit digits ih =>
      rw [Nat.ofDigitChars_cons, Nat.mul_comm] at fits ⊢
      have longer := Nat.le_trans (Text.le_ofDigitChars digits _) fits
      rw [List.map_cons, extend]
      simp only [(byteOf_spec (all digit List.mem_cons_self)).2.2.1, longer, if_true]
      rw [ih (fun other mem => all other (List.mem_cons_of_mem _ mem)) fits, List.length_cons]
      simp only [Nat.add_comm, Nat.add_left_comm]

/-- What ends a value is no digit, no point and no exponent mark. -/
theorem ahead_of_ends (ends : Ends rest) :
    rest.head?.any isDigit = false ∧ rest.head? ≠ some 0x2E ∧
      rest.head?.any isExponentMark = false := by
  cases rest with
  | nil => simp
  | cons byte rest =>
      rcases ends byte rfl with rfl | rfl | rfl
      all_goals exact ⟨rfl, by simp, rfl⟩

/-- A digit can begin a value, and is no minus sign. -/
theorem isFirst_of_isDigit {byte : UInt8} (digit : isDigit byte = true) :
    IsFirst byte ∧ byte ≠ 0x2D := by
  have other {sign : UInt8} (none : isDigit sign = false) : byte ≠ sign := by
    rintro rfl
    rw [digit] at none
    cases none
  have visible : Cursor.isBlank byte = false := by
    simp only [Cursor.isBlank, Bool.or_eq_false_iff, beq_eq_false_iff_ne]
    exact ⟨⟨⟨other rfl, other rfl⟩, other rfl⟩, other rfl⟩
  exact ⟨⟨visible, other rfl⟩, other rfl⟩

theorem takes_digits {run : List UInt8} (all : ∀ byte ∈ run, isDigit byte = true)
    (ends : Ends rest) : Takes Number.digits run rest run := by
  have none : rest.takeWhile isDigit = [] ∧ rest.dropWhile isDigit = rest := by
    cases rest with
    | nil => exact ⟨rfl, rfl⟩
    | cons byte rest =>
        have other : isDigit byte = false := (ahead_of_ends ends).1
        exact ⟨List.takeWhile_cons_of_neg (by simp [other]),
          List.dropWhile_cons_of_neg (by simp [other])⟩
  intro cursor here
  rw [Number.digits, here, List.takeWhile_append_of_pos all, List.dropWhile_append_of_pos all, none.1,
    none.2, List.append_nil]
  exact ⟨_, rfl, rfl⟩

/-- A whole number is taken for itself in front of what ends it. -/
theorem takes_read (fits : value ≤ largest) (ends : Ends rest) :
    Takes (Number.read true) (Utf8.encode (Json.natural value)) rest (.natural value) := by
  rcases List.exists_cons_of_ne_nil (Nat.toDigits_ne_nil (b := 10) (n := value)) with
    ⟨first, others, digits_eq⟩
  have all : ∀ digit ∈ first :: others, digit.isDigit = true := digits_eq ▸ Text.isDigit_toDigits
  have spec := byteOf_spec (all first List.mem_cons_self)
  have run_all : ∀ byte ∈ others.map byteOf, isDigit byte = true := by
    intro byte mem
    rcases List.mem_map.mp mem with ⟨digit, digit_mem, rfl⟩
    exact (byteOf_spec (all digit (List.mem_cons_of_mem _ digit_mem))).2.1
  have value_eq : Nat.ofDigitChars 10 (first :: others) 0 = value :=
    digits_eq ▸ Nat.ofDigitChars_ten_toDigits
  have extended := extend_eq all (by rw [value_eq]; exact fits) 0
  rw [value_eq, List.map_cons] at extended
  rcases ahead_of_ends ends with ⟨noDigit, noPoint, noExponent⟩
  rw [encode_natural, digits_eq, List.map_cons]
  rw [Number.read, ← List.singleton_append]
  apply Takes.bind (Takes.next _ _)
  simp only [spec.2.1, Bool.not_true, Bool.false_eq_true, if_false]
  -- a zero in front has nothing behind it, and any other digit the remaining ones
  split
  case isTrue zero =>
    have alone : others = [] := eq_nil_of_zero (spec.2.2.2 zero ▸ digits_eq)
    rw [alone] at extended ⊢
    apply Takes.settle (Takes.pure [] rest)
    apply Takes.look (Takes.peek rest)
    simp only [noDigit, noPoint, noExponent, and_false, Bool.false_eq_true, if_false]
    simp only [List.map_nil] at extended
    simp only [extended, List.length_nil, List.length_cons, Nat.zero_add, Nat.sub_self]
    exact Takes.pure _ rest
  case isFalse notZero =>
    apply Takes.settle (takes_digits run_all ends)
    apply Takes.look (Takes.peek rest)
    simp only [noDigit, noPoint, noExponent, and_false, Bool.false_eq_true, if_false]
    simp only [extended, List.length_map, List.length_cons, Nat.zero_add, Nat.sub_self]
    exact Takes.pure _ rest

end Number

/-- A number of 64 bits is read back. -/
theorem reads_natural (fits : value < Nat.pow 2 64) :
    Reads Read.natural (Utf8.encode (natural value)) value := by
  have small : value ≤ Number.largest := Nat.le_sub_one_of_lt fits
  rcases List.exists_cons_of_ne_nil (Nat.toDigits_ne_nil (b := 10) (n := value)) with
    ⟨first, others, digits_eq⟩
  have isDigit : first.isDigit = true :=
    Text.isDigit_toDigits first (digits_eq ▸ List.mem_cons_self)
  have bytes_eq : Utf8.encode (natural value) = byteOf first :: others.map byteOf := by
    rw [Number.encode_natural, digits_eq, List.map_cons]
  have isByte := (Number.byteOf_spec isDigit).2.1
  rcases Number.isFirst_of_isDigit isByte with ⟨isFirst, positive⟩
  constructor
  case begins => exact ⟨_, _, bytes_eq, isFirst⟩
  case takes =>
    intro rest ends
    have taken := Number.takes_read small ends
    rw [bytes_eq] at taken ⊢
    rw [Read.natural]
    apply Takes.look (Takes.valueToken isFirst.1 _)
    simp only [positive, isByte, ne_eq, not_false_eq_true, Bool.not_true, Bool.false_eq_true, and_false,
      if_false, decide_true]
    exact Takes.settle taken (Takes.pure value rest)

end LinkGuard.Json
