import LinkGuard.Proofs.Text.Utf8

/-!
# UTF-8 is exact

No two byte strings are read as the same text: bytes that are read strictly are the bytes of the
text they are read as. The machine is followed through the bytes again, now with any bytes that it
accepts. Its opening byte announces how many bytes a character has, and the range of the second
byte leaves no overlong form, no surrogate and nothing past the last code point.
-/

namespace LinkGuard.Utf8

variable {found : List (Option Char)} {byte : UInt8} {bytes : List UInt8} {begun : Pending}

theorem mem_scan {piece : Option Char} {pending : Option Pending} (mem : piece ∈ found) :
    piece ∈ scan found pending bytes := by
  induction bytes generalizing found pending with
  | nil =>
      rw [scan]
      split <;> simp [mem]
  | cons byte rest ih =>
      have idle {found : List (Option Char)} (mem : piece ∈ found) :
          piece ∈ (stepIdle found byte).1 := by
        rw [stepIdle]
        split <;> simp [mem]
      rw [scan]
      apply ih
      cases pending with
      | none => exact idle mem
      | some begun =>
          dsimp only
          split
          · split <;> simp [mem]
          · apply idle
            simp [mem]

/-- Unless it breaks, a pending character meets a byte in its range. -/
theorem exists_of_pending (whole : none ∉ scan found (some begun) bytes) :
    ∃ byte rest, bytes = byte :: rest ∧ begun.low ≤ byte.toNat ∧ byte.toNat ≤ begun.high := by
  cases bytes with
  | nil => simp [scan] at whole
  | cons byte rest =>
      refine ⟨byte, rest, rfl, ?_⟩
      apply Decidable.byContradiction
      intro outside
      apply whole
      simp only [scan, step, outside, if_false, stepIdle]
      apply mem_scan
      split <;> simp

theorem exists_of_last (whole : none ∉ scan found (some begun) bytes) (owed : begun.owed ≤ 1) :
    ∃ byte rest, bytes = byte :: rest ∧ begun.low ≤ byte.toNat ∧ byte.toNat ≤ begun.high ∧
      scan found (some begun) bytes =
        scan (some (Char.ofNat (begun.bits * 64 + byte.toNat % 64)) :: found) none rest := by
  rcases exists_of_pending whole with ⟨byte, rest, rfl, low, high⟩
  exact ⟨byte, rest, rfl, low, high, scan_last found low high owed⟩

theorem exists_of_owing (whole : none ∉ scan found (some begun) bytes) (owed : 1 < begun.owed) :
    ∃ byte rest, bytes = byte :: rest ∧ begun.low ≤ byte.toNat ∧ byte.toNat ≤ begun.high ∧
      scan found (some begun) bytes =
        scan found (some ⟨begun.bits * 64 + byte.toNat % 64, begun.owed - 1, 0x80, 0xBF⟩) rest := by
  rcases exists_of_pending whole with ⟨byte, rest, rfl, low, high⟩
  exact ⟨byte, rest, rfl, low, high, scan_pending found low high owed⟩

/-- A byte that begins a character announces its length, and narrows the second byte where the
character would otherwise be overlong, a surrogate or past the last code point. -/
theorem start_opens (opens : start byte = .opens begun) :
    (0xC2 ≤ byte.toNat ∧ byte.toNat < 0xE0 ∧ begun = ⟨byte.toNat - 0xC0, 1, 0x80, 0xBF⟩) ∨
    (0xE0 ≤ byte.toNat ∧ byte.toNat < 0xF0 ∧ begun.bits = byte.toNat - 0xE0 ∧ begun.owed = 2 ∧
      0x80 ≤ begun.low ∧ begun.high ≤ 0xBF ∧ (byte.toNat = 0xE0 → 0xA0 ≤ begun.low) ∧
      (byte.toNat = 0xED → begun.high ≤ 0x9F)) ∨
    (0xF0 ≤ byte.toNat ∧ byte.toNat ≤ 0xF4 ∧ begun.bits = byte.toNat - 0xF0 ∧ begun.owed = 3 ∧
      0x80 ≤ begun.low ∧ begun.high ≤ 0xBF ∧ (byte.toNat = 0xF0 → 0x90 ≤ begun.low) ∧
      (byte.toNat = 0xF4 → begun.high ≤ 0x8F)) := by
  simp only [start] at opens
  grind

theorem toUInt8_eq {value : Nat} (byte : UInt8) (same : value = byte.toNat) : value.toUInt8 = byte := by
  subst same
  simp

theorem toNat_ofNat {code : Nat} (valid : code < 0xD800 ∨ 0xDFFF < code ∧ code < 0x110000) :
    (Char.ofNat code).toNat = code := by
  have isValid : code.isValidChar := valid
  rw [Char.ofNat, dif_pos isValid]
  rfl

/-- Unless something is broken, the bytes begin with those of a character. -/
theorem exists_encodeChar (filled : bytes ≠ []) (whole : none ∉ scan found none bytes) :
    ∃ character rest, bytes = encodeChar character ++ rest ∧
      scan found none bytes = scan (some character :: found) none rest := by
  rcases List.exists_cons_of_ne_nil filled with ⟨byte, rest, rfl⟩
  cases begins : start byte with
  | broken =>
      refine absurd ?_ whole
      simp only [scan, step, stepIdle, begins]
      apply mem_scan
      simp
  | whole character =>
      refine ⟨character, rest, ?_, by simp only [scan, step, stepIdle, begins]⟩
      rw [start] at begins
      by_cases ascii : byte.toNat < 0x80
      · rw [if_pos ascii] at begins
        cases begins
        rw [encodeChar, toNat_ofNat (by omega)]
        simp [ascii]
      · rw [if_neg ascii] at begins
        grind
  | opens begun =>
      rw [scan_opens found begins] at whole ⊢
      rcases start_opens begins with
        ⟨least, below, rfl⟩ | ⟨least, below, bits, owed, low, high, overlong, surrogate⟩ |
          ⟨least, below, bits, owed, low, high, overlong, past⟩
      · rcases exists_of_last whole (by simp) with ⟨second, rest, rfl, low, high, read⟩
        simp only at low high read
        refine ⟨_, rest, ?_, read⟩
        rw [encodeChar, toNat_ofNat (by omega), if_neg (by omega), if_pos (by omega),
          toUInt8_eq byte (by omega), toUInt8_eq second (by omega)]
        rfl
      · rcases exists_of_owing whole (by omega) with ⟨second, rest, rfl, low', high', read⟩
        rw [read] at whole ⊢
        rcases exists_of_last whole (by simp only; omega) with ⟨third, rest, rfl, low'', high'', read'⟩
        simp only at low'' high'' read'
        refine ⟨_, rest, ?_, read'⟩
        rw [encodeChar, toNat_ofNat (by omega), if_neg (by omega), if_neg (by omega),
          if_pos (by omega), toUInt8_eq byte (by omega),
          toUInt8_eq second (by omega), toUInt8_eq third (by omega)]
        rfl
      · rcases exists_of_owing whole (by omega) with ⟨second, rest, rfl, low', high', read⟩
        rw [read] at whole ⊢
        rcases exists_of_owing whole (by simp only; omega) with
          ⟨third, rest, rfl, low'', high'', read'⟩
        rw [read'] at whole ⊢
        rcases exists_of_last whole (by simp only; omega) with
          ⟨fourth, rest, rfl, low''', high''', read''⟩
        simp only at low'' high'' low''' high''' read''
        refine ⟨_, rest, ?_, read''⟩
        rw [encodeChar, toNat_ofNat (by omega), if_neg (by omega), if_neg (by omega),
          if_neg (by omega), toUInt8_eq byte (by omega),
          toUInt8_eq second (by omega), toUInt8_eq third (by omega),
          toUInt8_eq fourth (by omega)]
        rfl

/-- What is read without a broken stretch are the characters whose bytes were there. -/
theorem exists_encodeChars (whole : none ∉ scan found none bytes) :
    ∃ characters, bytes = encodeChars characters ∧
      scan found none bytes = found.reverse ++ characters.map some := by
  induction length_eq : bytes.length using Nat.strongRecOn generalizing bytes found with
  | ind length ih =>
      by_cases filled : bytes = []
      · subst filled
        exact ⟨[], rfl, by simp [scan]⟩
      · rcases exists_encodeChar filled whole with ⟨character, rest, rfl, read⟩
        rw [read] at whole ⊢
        have shorter : rest.length < length := by
          have filled : 0 < (encodeChar character).length := by
            rw [encodeChar]
            grind
          rw [List.length_append] at length_eq
          omega
        rcases ih rest.length shorter whole rfl with ⟨characters, rfl, read⟩
        exact ⟨character :: characters, rfl, by simp [read]⟩

/-- The strict reading is exact: the bytes that are read as a text are those of the text. -/
theorem decode?_eq_some_iff {bytes : List UInt8} {text : String} :
    decode? bytes = some text ↔ bytes = encode text := by
  constructor
  · intro read
    simp only [decode?] at read
    split at read
    case isTrue all =>
      have whole : none ∉ scan [] none bytes := by
        intro mem
        simpa using List.all_eq_true.mp all none mem
      rcases exists_encodeChars whole with ⟨characters, rfl, pieces_eq⟩
      cases read
      simp [encode, pieces, pieces_eq, List.filterMap_map]
    case isFalse => cases read
  · rintro rfl
    exact decode?_encode text

end LinkGuard.Utf8
