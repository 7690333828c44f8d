import Mathlib.Data.Nat.Notation

/-!
# ASCII characters and decimal digits

A property of ASCII characters is checked on their 128 codes. The digits of a number are read back
as its value, however the reader bounds what it has read so far: the value of the first digits is
never above that of all.
-/

namespace LinkGuard.Text

section Characters

variable {character : Char}

/-- What holds of the first 128 characters holds of every ASCII character. -/
@[elab_as_elim]
theorem of_ascii {motive : Char → Prop} (ascii : character.toNat < 128)
    (each : ∀ code < 128, motive (Char.ofNat code)) : motive character := by
  have held := each character.toNat ascii
  rwa [Char.ofNat_toNat] at held

theorem toNat_lt_of_isAlphanum (alphanum : character.isAlphanum = true) :
    character.toNat < 128 := by
  change ((decide ('A'.val ≤ character.val ∧ character.val ≤ 'Z'.val) ||
    decide ('a'.val ≤ character.val) && decide (character.val ≤ 'z'.val)) ||
      decide ('0'.val ≤ character.val) && decide (character.val ≤ '9'.val)) = true at alphanum
  simp only [Bool.or_eq_true, Bool.and_eq_true, decide_eq_true_eq,
    UInt32.le_iff_toNat_le] at alphanum
  change character.val.toNat < 128
  have bounds : 'Z'.val.toNat = 90 ∧ 'z'.val.toNat = 122 ∧ '9'.val.toNat = 57 := ⟨rfl, rfl, rfl⟩
  omega

theorem isAlphanum_of_isDigit (digit : character.isDigit = true) :
    character.isAlphanum = true := by
  change (character.isAlpha || character.isDigit) = true
  rw [digit, Bool.or_true]

theorem isAlpha_of_isLower (lower : character.isLower = true) : character.isAlpha = true := by
  change (character.isUpper || character.isLower) = true
  rw [lower, Bool.or_true]

theorem isAlphanum_of_isLower (lower : character.isLower = true) :
    character.isAlphanum = true := by
  change (character.isAlpha || character.isDigit) = true
  rw [isAlpha_of_isLower lower, Bool.true_or]

end Characters

section Digits

variable {digits : List Char} {value : ℕ}

theorem isDigit_toDigits : ∀ digit ∈ Nat.toDigits 10 value, digit.isDigit = true := fun _ mem =>
  Nat.isDigit_of_mem_toDigits (by decide) (by decide) mem

/-- Further digits only make a value larger. -/
theorem le_ofDigitChars (digits : List Char) (value : ℕ) :
    value ≤ Nat.ofDigitChars 10 digits value := by
  induction digits generalizing value with
  | nil => exact Nat.le_of_eq Nat.ofDigitChars_nil.symm
  | cons digit digits ih =>
      rw [Nat.ofDigitChars_cons]
      exact Nat.le_trans (by omega) (ih _)

end Digits

end LinkGuard.Text
