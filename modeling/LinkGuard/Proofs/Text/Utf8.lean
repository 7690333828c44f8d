import LinkGuard.Text.Utf8

/-!
# Reading UTF-8 back

Every text is read back from its own bytes, by the strict reader and by the lossy one. The machine
is followed through the bytes of a single character: an opening byte leaves it pending with the
leading bits and a range that the next byte meets, each further byte adds six bits, and the last
one completes the character. The ranges after `E0`, `ED`, `F0` and `F4` are met because a character
is neither overlong nor a surrogate nor past the last code point.
-/

namespace LinkGuard.Utf8

/-- A character that takes its byte and still owes more. -/
theorem scan_pending {begun : Pending} {byte : UInt8} {rest : List UInt8}
    (found : List (Option Char)) (low : begun.low ≤ byte.toNat) (high : byte.toNat ≤ begun.high)
    (owed : 1 < begun.owed) :
    scan found (some begun) (byte :: rest) =
      scan found (some ⟨begun.bits * 64 + byte.toNat % 64, begun.owed - 1, 0x80, 0xBF⟩) rest := by
  have notLast : ¬begun.owed ≤ 1 := by omega
  simp only [scan, step, low, high, and_self, if_true, notLast, if_false]

/-- A character that takes its last byte. -/
theorem scan_last {begun : Pending} {byte : UInt8} {rest : List UInt8}
    (found : List (Option Char)) (low : begun.low ≤ byte.toNat) (high : byte.toNat ≤ begun.high)
    (owed : begun.owed ≤ 1) :
    scan found (some begun) (byte :: rest) =
      scan (some (Char.ofNat (begun.bits * 64 + byte.toNat % 64)) :: found) none rest := by
  simp only [scan, step, low, high, and_self, if_true, owed]

/-- A byte between characters that opens one. -/
theorem scan_opens {byte : UInt8} {begun : Pending} {rest : List UInt8}
    (found : List (Option Char)) (opens : start byte = .opens begun) :
    scan found none (byte :: rest) = scan found (some begun) rest := by
  simp only [scan, step, stepIdle, opens]

theorem toNat_toUInt8 {value : Nat} (small : value < 256) : value.toUInt8.toNat = value := by
  simpa using Nat.mod_eq_of_lt small

/-- A continuation byte carries six bits and lies in the range of continuation bytes. -/
theorem continuation_bounds (value : Nat) :
    0x80 ≤ (0x80 + value % 64).toUInt8.toNat ∧ (0x80 + value % 64).toUInt8.toNat ≤ 0xBF ∧
      (0x80 + value % 64).toUInt8.toNat % 64 = value % 64 := by
  rw [toNat_toUInt8 (by omega)]
  omega

/-- The opening byte of two admits every continuation. -/
theorem start_two {code : Nat} (least : 0x80 ≤ code) (below : code < 0x800) :
    start (0xC0 + code / 64).toUInt8 = .opens ⟨code / 64, 1, 0x80, 0xBF⟩ := by
  simp only [start]
  rw [toNat_toUInt8 (by omega)]
  grind

/-- The opening byte of three admits the second byte of every character that is written with
three, which is neither overlong nor a surrogate. -/
theorem start_three {code : Nat} (least : 0x800 ≤ code) (below : code < 0x10000)
    (valid : code < 0xD800 ∨ 0xDFFF < code) :
    ∃ low high, start (0xE0 + code / 4096).toUInt8 = .opens ⟨code / 4096, 2, low, high⟩ ∧
      low ≤ 0x80 + code / 64 % 64 ∧ 0x80 + code / 64 % 64 ≤ high := by
  simp only [start]
  rw [toNat_toUInt8 (by omega)]
  by_cases first : code / 4096 = 0
  · exact ⟨0xA0, 0xBF, by grind, by omega, by omega⟩
  · by_cases beforeSurrogates : code / 4096 = 13
    · exact ⟨0x80, 0x9F, by grind, by omega, by omega⟩
    · exact ⟨0x80, 0xBF, by grind, by omega, by omega⟩

/-- The opening byte of four admits the second byte of every character that is written with four,
which is neither overlong nor past the last code point. -/
theorem start_four {code : Nat} (least : 0x10000 ≤ code) (below : code < 0x110000) :
    ∃ low high, start (0xF0 + code / 262144).toUInt8 = .opens ⟨code / 262144, 3, low, high⟩ ∧
      low ≤ 0x80 + code / 4096 % 64 ∧ 0x80 + code / 4096 % 64 ≤ high := by
  simp only [start]
  rw [toNat_toUInt8 (by omega)]
  by_cases first : code / 262144 = 0
  · exact ⟨0x90, 0xBF, by grind, by omega, by omega⟩
  · by_cases last : code / 262144 = 4
    · exact ⟨0x80, 0x8F, by grind, by omega, by omega⟩
    · exact ⟨0x80, 0xBF, by grind, by omega, by omega⟩

/-- The bytes of a character are read as that character, whatever follows. -/
theorem scan_encodeChar (character : Char) (found : List (Option Char)) (rest : List UInt8) :
    scan found none (encodeChar character ++ rest) = scan (some character :: found) none rest := by
  have valid : character.toNat < 0xD800 ∨ 0xDFFF < character.toNat ∧ character.toNat < 0x110000 :=
    character.valid
  have back := Char.ofNat_toNat character
  generalize code_eq : character.toNat = code at valid back
  simp only [encodeChar, code_eq]
  have lastSix := continuation_bounds code
  have middleSix := continuation_bounds (code / 64)
  have upperSix := continuation_bounds (code / 4096)
  split
  case isTrue one =>
    simp only [List.cons_append, List.nil_append, scan, step, stepIdle, start]
    rw [toNat_toUInt8 (by omega), if_pos one, back]
  case isFalse notOne =>
    split
    case isTrue two =>
      simp only [List.cons_append, List.nil_append]
      rw [scan_opens _ (start_two (by omega) two), scan_last _ lastSix.1 lastSix.2.1 (by simp)]
      simp only
      rw [show code / 64 * 64 + (0x80 + code % 64).toUInt8.toNat % 64 = code by omega, back]
    case isFalse notTwo =>
      split
      case isTrue three =>
        obtain ⟨low, high, opens, atLeast, atMost⟩ := start_three (by omega) three (by omega)
        have second : (0x80 + code / 64 % 64).toUInt8.toNat = 0x80 + code / 64 % 64 :=
          toNat_toUInt8 (by omega)
        simp only [List.cons_append, List.nil_append]
        rw [scan_opens _ opens,
          scan_pending _ (by simp only; omega) (by simp only; omega) (by simp),
          scan_last _ lastSix.1 lastSix.2.1 (by simp)]
        simp only
        rw [middleSix.2.2, lastSix.2.2,
          show (code / 4096 * 64 + code / 64 % 64) * 64 + code % 64 = code by omega, back]
      case isFalse notThree =>
        have below : code < 0x110000 := by omega
        obtain ⟨low, high, opens, atLeast, atMost⟩ := start_four (by omega) below
        have second : (0x80 + code / 4096 % 64).toUInt8.toNat = 0x80 + code / 4096 % 64 :=
          toNat_toUInt8 (by omega)
        simp only [List.cons_append, List.nil_append]
        rw [scan_opens _ opens,
          scan_pending _ (by simp only; omega) (by simp only; omega) (by simp),
          scan_pending _ middleSix.1 middleSix.2.1 (by simp),
          scan_last _ lastSix.1 lastSix.2.1 (by simp)]
        simp only
        rw [upperSix.2.2, middleSix.2.2, lastSix.2.2,
          show ((code / 262144 * 64 + code / 4096 % 64) * 64 + code / 64 % 64) * 64 + code % 64 =
            code by omega, back]

/-- A byte of a character is the character itself, if that is ASCII, or no ASCII at all. -/
theorem mem_encodeChar {character : Char} {byte : UInt8} (mem : byte ∈ encodeChar character) :
    character.toNat < 0x80 ∧ byte = character.toNat.toUInt8 ∨ 0x80 ≤ byte.toNat := by
  have valid : character.toNat < 0xD800 ∨ 0xDFFF < character.toNat ∧ character.toNat < 0x110000 :=
    character.valid
  have high {value : Nat} (least : 0x80 ≤ value) (small : value < 256) :
      0x80 ≤ value.toUInt8.toNat := by
    rw [toNat_toUInt8 small]
    exact least
  rw [encodeChar] at mem
  generalize character.toNat = code at valid mem ⊢
  by_cases one : code < 0x80
  · simp only [one, if_true, List.mem_singleton] at mem
    exact .inl ⟨one, mem⟩
  · refine .inr ?_
    by_cases two : code < 0x800
    · simp only [one, two, if_true, if_false, List.mem_cons, List.not_mem_nil, or_false] at mem
      rcases mem with rfl | rfl <;> exact high (by omega) (by omega)
    · by_cases three : code < 0x10000
      · simp only [one, two, three, if_true, if_false, List.mem_cons, List.not_mem_nil,
          or_false] at mem
        rcases mem with rfl | rfl | rfl <;> exact high (by omega) (by omega)
      · simp only [one, two, three, if_false, List.mem_cons, List.not_mem_nil, or_false] at mem
        rcases mem with rfl | rfl | rfl | rfl <;> exact high (by omega) (by omega)

theorem scan_encodeChars (characters : List Char) (found : List (Option Char)) :
    scan found none (encodeChars characters) = found.reverse ++ characters.map some := by
  induction characters generalizing found with
  | nil => simp [encodeChars, scan]
  | cons first rest ih =>
      simp only [encodeChars, List.flatMap_cons] at ih ⊢
      rw [scan_encodeChar, ih]
      simp

/-- The bytes of a text hold its characters and nothing broken. -/
@[simp]
theorem pieces_encode (text : String) : pieces (encode text) = text.toList.map some := by
  simp [pieces, encode, scan_encodeChars]

/-- A text is read back from its bytes. -/
@[simp]
theorem decode?_encode (text : String) : decode? (encode text) = some text := by
  simp [decode?, List.filterMap_map, Function.comp_def]

@[simp]
theorem decodeLossy_encode (text : String) : decodeLossy (encode text) = text := by
  simp [decodeLossy, Function.comp_def]

theorem encode_injective {left right : String} (same : encode left = encode right) :
    left = right := by
  have read := congrArg decodeLossy same
  simpa using read

@[simp]
theorem encode_append (left right : String) :
    encode (left ++ right) = encode left ++ encode right := by
  simp [encode, encodeChars]

end LinkGuard.Utf8
