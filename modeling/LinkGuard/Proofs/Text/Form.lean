import LinkGuard.Proofs.Text.Utf8
import LinkGuard.Text.Form

/-!
# Reading form-encoded texts back

A name or value is read back from its written form, byte by byte: a plain byte stands for itself, a
space comes back from its `+`, and every other byte from its two hex digits. No written form holds
a separator, so the place where a value ends can be seen from outside it.
-/

namespace LinkGuard

namespace Percent

theorem hexValue?_hexDigit (value : UInt8) (small : value.toNat < 16) :
    hexValue? (hexDigit value) = some value := by
  have each : ∀ code < 16, hexValue? (hexDigit (UInt8.ofNat code)) = some (UInt8.ofNat code) := by
    decide
  simpa using each value.toNat small

/-- A written byte is read back, whatever follows. -/
theorem decodeOnto_encodeByte (byte : UInt8) (decoded rest : List UInt8) :
    decodeOnto decoded (encodeByte byte ++ rest) = decodeOnto (byte :: decoded) rest := by
  have bound := byte.toNat_lt
  have high : (byte / 16).toNat < 16 := by simp; omega
  have low : (byte % 16).toNat < 16 := by simp; omega
  have joined : byte / 16 * 16 + byte % 16 = byte := by
    rw [← UInt8.toNat_inj]
    simp
    omega
  have found : escape? (hexDigit (byte / 16) :: hexDigit (byte % 16) :: rest) =
      some (byte, rest) := by
    simp only [escape?, hexValue?_hexDigit _ high, hexValue?_hexDigit _ low, joined]
  simp only [encodeByte, List.cons_append, List.nil_append]
  rw [decodeOnto]
  simp only [if_true]
  split
  case h_1 value after other =>
    rw [found] at other
    simp only [Option.some.injEq, Prod.mk.injEq] at other
    rw [other.1, other.2]
  case h_2 other =>
    rw [found] at other
    simp at other

theorem decodeOnto_cons {byte : UInt8} (plain : byte ≠ 0x25) (decoded rest : List UInt8) :
    decodeOnto decoded (byte :: rest) = decodeOnto (byte :: decoded) rest := by
  rw [decodeOnto, if_neg plain]

end Percent

namespace Form

/-- The byte that stands for a byte once `+` is a space again. -/
def plusToSpace (byte : UInt8) : UInt8 := if byte = 0x2B then 0x20 else byte

theorem plusToSpace_hexDigit (value : UInt8) (small : value.toNat < 16) :
    plusToSpace (Percent.hexDigit value) = Percent.hexDigit value := by
  have each : ∀ code < 16, plusToSpace (Percent.hexDigit (UInt8.ofNat code)) =
      Percent.hexDigit (UInt8.ofNat code) := by
    decide
  simpa using each value.toNat small

/-- A written byte is read back, whatever follows. -/
theorem decodeOnto_encodeByte (byte : UInt8) (decoded rest : List UInt8) :
    Percent.decodeOnto decoded ((encodeByte byte).map plusToSpace ++ rest) =
      Percent.decodeOnto (byte :: decoded) rest := by
  rw [encodeByte]
  split
  case isTrue plain =>
    have notPlus : byte ≠ 0x2B := by rintro rfl; revert plain; decide
    have notPercent : byte ≠ 0x25 := by rintro rfl; revert plain; decide
    simp [plusToSpace, notPlus, Percent.decodeOnto_cons notPercent]
  case isFalse _ =>
    split
    case isTrue space =>
      subst space
      simp [plusToSpace, Percent.decodeOnto_cons (by decide : (0x20 : UInt8) ≠ 0x25)]
    case isFalse _ =>
      have bound := byte.toNat_lt
      have unchanged :
          (Percent.encodeByte byte).map plusToSpace = Percent.encodeByte byte := by
        simp only [Percent.encodeByte, List.map_cons, List.map_nil]
        rw [plusToSpace_hexDigit _ (by simp; omega), plusToSpace_hexDigit _ (by simp; omega)]
        rfl
      rw [unchanged, Percent.decodeOnto_encodeByte]

theorem decodeOnto_flatMap_encodeByte (bytes decoded : List UInt8) :
    Percent.decodeOnto decoded ((bytes.flatMap encodeByte).map plusToSpace) =
      decoded.reverse ++ bytes := by
  induction bytes generalizing decoded with
  | nil => simp [Percent.decodeOnto]
  | cons first rest ih =>
      rw [List.flatMap_cons, List.map_append, decodeOnto_encodeByte, ih]
      simp

/-- A name or value is read back from its written form. -/
@[simp]
theorem decode_encodeBytes (text : String) : decode (encodeBytes text) = text := by
  have read := decodeOnto_flatMap_encodeByte (Utf8.encode text) []
  simp only [List.reverse_nil, List.nil_append] at read
  simp only [decode, encodeBytes, Percent.decode]
  have spaced : (fun byte : UInt8 => if byte = 0x2B then (0x20 : UInt8) else byte) =
      plusToSpace := rfl
  rw [spaced, read, Utf8.decodeLossy_encode]

/-- The bytes of written forms: plain ones, `+`, `%` and hex digits. -/
def isWritten (byte : UInt8) : Bool := isPlain byte || byte == 0x2B || byte == 0x25

theorem isWritten_hexDigit (value : UInt8) (small : value.toNat < 16) :
    isWritten (Percent.hexDigit value) = true := by
  have each : ∀ code < 16, isWritten (Percent.hexDigit (UInt8.ofNat code)) = true := by decide
  simpa using each value.toNat small

theorem isWritten_of_mem_escape {byte written : UInt8} (mem : written ∈ Percent.encodeByte byte) :
    isWritten written = true := by
  have bound := byte.toNat_lt
  simp only [Percent.encodeByte, List.mem_cons, List.not_mem_nil, or_false] at mem
  rcases mem with rfl | rfl | rfl
  · decide
  · exact isWritten_hexDigit _ (by simp; omega)
  · exact isWritten_hexDigit _ (by simp; omega)

theorem isWritten_of_mem_encodeByte {byte written : UInt8} (mem : written ∈ encodeByte byte) :
    isWritten written = true := by
  rw [encodeByte] at mem
  split at mem
  case isTrue plain =>
    simp only [List.mem_singleton] at mem
    simp [isWritten, mem, plain]
  case isFalse _ =>
    split at mem
    case isTrue _ =>
      simp only [List.mem_singleton] at mem
      simp [isWritten, mem]
    case isFalse _ => exact isWritten_of_mem_escape mem

theorem isWritten_of_mem_encodeBytes {text : String} {byte : UInt8}
    (mem : byte ∈ encodeBytes text) : isWritten byte = true := by
  simp only [encodeBytes, List.mem_flatMap] at mem
  rcases mem with ⟨_, _, written⟩
  exact isWritten_of_mem_encodeByte written

@[simp]
theorem toNat_ofNat_toNat (byte : UInt8) : (Char.ofNat byte.toNat).toNat = byte.toNat := by
  have bound := byte.toNat_lt
  have small : byte.toNat < 0xD800 := by omega
  rw [Char.ofNat, dif_pos (Or.inl small)]
  rfl

theorem ofNat_toNat_injective {left right : UInt8}
    (same : Char.ofNat left.toNat = Char.ofNat right.toNat) : left = right := by
  have codes := congrArg Char.toNat same
  simpa [UInt8.toNat_inj] using codes

theorem ne_ampersand_of_mem_encode {text : String} {character : Char}
    (mem : character ∈ (encode text).toList) : character ≠ '&' := by
  simp only [encode, String.toList_ofList, List.mem_map] at mem
  rcases mem with ⟨byte, byteMem, rfl⟩
  have written := isWritten_of_mem_encodeBytes byteMem
  intro separator
  have byteEq : byte = 0x26 := ofNat_toNat_injective (separator.trans (by decide))
  subst byteEq
  revert written
  decide

theorem encode_injective {left right : String} (same : encode left = encode right) :
    left = right := by
  have characters := congrArg String.toList same
  simp only [encode, String.toList_ofList] at characters
  have bytes : encodeBytes left = encodeBytes right :=
    (List.map_inj_right fun _ _ => ofNat_toNat_injective).mp characters
  simpa using congrArg decode bytes

/-- What is written before the first separator. -/
theorem takeWhile_encode_append (text after : String) :
    (encode text ++ "&" ++ after).toList.takeWhile (· ≠ '&') = (encode text).toList := by
  have unbroken : ∀ character ∈ (encode text).toList, decide (character ≠ '&') = true := by
    intro character mem
    simpa using ne_ampersand_of_mem_encode mem
  rw [String.toList_append, String.toList_append, List.append_assoc,
    List.takeWhile_append_of_pos unbroken]
  simp

/-- A value can be told from all that is written: it ends at the next separator. -/
theorem left_eq_right_of_encode_append {left right after other : String}
    (same : encode left ++ "&" ++ after = encode right ++ "&" ++ other) : left = right := by
  have characters := congrArg (fun text : String => text.toList.takeWhile (· ≠ '&')) same
  simp only [takeWhile_encode_append] at characters
  exact encode_injective (String.toList_inj.mp characters)

end Form

end LinkGuard
