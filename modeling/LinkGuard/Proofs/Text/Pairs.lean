import LinkGuard.Proofs.Text.Form

/-!
# Query strings are read back

The pairs of a query string are read back from their written form, whatever their names and values
are. A written name or value holds neither of the two separators, so the pieces between the
separators are those that were written.
-/

namespace LinkGuard

namespace Utf8

/-- Characters made of ASCII bytes are written as these bytes. -/
theorem encodeChars_map_ofNat {bytes : List UInt8} (ascii : ∀ byte ∈ bytes, byte.toNat < 0x80) :
    encodeChars (bytes.map fun byte => Char.ofNat byte.toNat) = bytes := by
  induction bytes with
  | nil => rfl
  | cons first rest ih =>
      rw [List.forall_mem_cons] at ascii
      have one : encodeChar (Char.ofNat first.toNat) = [first] := by
        simp [encodeChar, ascii.1]
      rw [encodeChars] at ih ⊢
      rw [List.map_cons, List.flatMap_cons, one, ih ascii.2, List.singleton_append]

theorem encode_intercalate (separator : String) (texts : List String) :
    encode (separator.intercalate texts) = (encode separator).intercalate (texts.map encode) := by
  induction texts with
  | nil => rfl
  | cons first rest ih =>
      cases rest with
      | nil => simp
      | cons second rest =>
          rw [List.map_cons] at ih ⊢
          rw [String.intercalate_cons_cons, encode_append, encode_append, ih, List.map_cons,
            List.intercalate_cons_cons]

end Utf8

/-- What stands in joined texts stands in one of them or between them. -/
theorem Text.of_mem_intercalate {separator : String} {texts : List String} {character : Char}
    (mem : character ∈ (separator.intercalate texts).toList) :
    character ∈ separator.toList ∨ ∃ text ∈ texts, character ∈ text.toList := by
  induction texts with
  | nil => cases mem
  | cons first rest ih =>
      cases rest with
      | nil =>
          rw [String.intercalate_singleton] at mem
          exact .inr ⟨first, List.mem_singleton_self first, mem⟩
      | cons second rest =>
          rw [String.intercalate_cons_cons, String.toList_append, String.toList_append,
            List.mem_append, List.mem_append] at mem
          rcases mem with (mem | mem) | mem
          · exact .inr ⟨first, List.mem_cons_self, mem⟩
          · exact .inl mem
          · rcases ih mem with between | ⟨text, joined, mem⟩
            · exact .inl between
            · exact .inr ⟨text, List.mem_cons_of_mem first joined, mem⟩

namespace Form

variable {text : String} {byte : UInt8}

theorem lt_of_isWritten (written : isWritten byte = true) : byte.toNat < 0x80 := by
  simp only [isWritten, isPlain, Bool.or_eq_true, Bool.and_eq_true, decide_eq_true_eq, beq_iff_eq,
    UInt8.le_iff_toNat_le, ← UInt8.toNat_inj, UInt8.reduceToNat] at written
  omega

@[simp]
theorem utf8_encode (text : String) : Utf8.encode (encode text) = encodeBytes text := by
  rw [Utf8.encode, encode, String.toList_ofList]
  apply Utf8.encodeChars_map_ofNat
  intro byte mem
  exact lt_of_isWritten (isWritten_of_mem_encodeBytes mem)

/-- The bytes of a written pair. -/
def pairBytes (pair : String × String) : List UInt8 :=
  encodeBytes pair.1 ++ 0x3D :: encodeBytes pair.2

theorem utf8_write (pairs : List (String × String)) :
    Utf8.encode (write pairs) = [0x26].intercalate (pairs.map pairBytes) := by
  have separator_eq : Utf8.encode "&" = [0x26] := rfl
  have equals_eq : Utf8.encode "=" = [0x3D] := rfl
  rw [write, Utf8.encode_intercalate, separator_eq, List.map_map]
  refine congrArg (List.intercalate [0x26]) (List.map_congr_left fun pair _ => ?_)
  simp only [Function.comp_apply, Utf8.encode_append, utf8_encode, equals_eq, pairBytes,
    List.append_assoc, List.singleton_append]

theorem ne_of_mem_encodeBytes {separator : UInt8} (mem : byte ∈ encodeBytes text)
    (unwritten : isWritten separator = false) : byte ≠ separator := by
  rintro rfl
  rw [isWritten_of_mem_encodeBytes mem] at unwritten
  cases unwritten

/-- A written pair is split where its name ends. -/
theorem splitPair_pairBytes (pair : String × String) :
    splitPair (pairBytes pair) = (encodeBytes pair.1, encodeBytes pair.2) := by
  have unbroken : ∀ byte ∈ encodeBytes pair.1, decide (byte ≠ 0x3D) = true := by
    intro byte mem
    simpa using ne_of_mem_encodeBytes mem (by decide : isWritten 0x3D = false)
  rw [splitPair, pairBytes, List.takeWhile_append_of_pos unbroken,
    List.dropWhile_append_of_pos unbroken]
  simp

theorem ampersand_not_mem_pairBytes (pair : String × String) : 0x26 ∉ pairBytes pair := by
  have unwritten : isWritten 0x26 = false := by decide
  rw [pairBytes, List.mem_append, List.mem_cons]
  rintro (mem | equal | mem)
  · exact ne_of_mem_encodeBytes mem unwritten rfl
  · exact absurd equal (by decide)
  · exact ne_of_mem_encodeBytes mem unwritten rfl

theorem pairBytes_ne_nil (pair : String × String) : pairBytes pair ≠ [] := by
  simp [pairBytes]

/-- The pieces of written pairs are the pairs. -/
theorem splitBytes_write (pairs : List (String × String)) :
    (splitBytes 0x26 (Utf8.encode (write pairs))).filter (· ≠ []) = pairs.map pairBytes := by
  rw [utf8_write, splitBytes]
  by_cases filled : pairs.map pairBytes = []
  · rw [filled]
    rfl
  · rw [List.splitOn_intercalate _ _ filled]
    · apply List.filter_eq_self.mpr
      intro piece mem
      rcases List.mem_map.mp mem with ⟨pair, _, rfl⟩
      simpa using pairBytes_ne_nil pair
    · intro piece mem
      rcases List.mem_map.mp mem with ⟨pair, _, rfl⟩
      exact ampersand_not_mem_pairBytes pair

/-- Pairs are read back from their written form, in order and with repetitions. -/
@[simp]
theorem parse_write (pairs : List (String × String)) : parse (write pairs) = pairs := by
  rw [parse, splitBytes_write, List.map_map]
  refine (List.map_congr_left fun pair _ => ?_).trans (List.map_id pairs)
  simp only [Function.comp_apply, splitPair_pairBytes, decode_encodeBytes, id_eq]

/-- A character that may stand in a query string as it is: a letter, a digit, a point, dash, star or
underscore, a plus or percent sign, or one of the two separators. -/
def IsQueryCharacter (character : Char) : Prop :=
  character.isAlphanum ∨ character ∈ ['.', '-', '*', '_', '+', '%', '&', '=']

instance (character : Char) : Decidable (IsQueryCharacter character) :=
  inferInstanceAs (Decidable (_ ∨ _))

theorem isQueryCharacter_of_isWritten (written : isWritten byte = true) :
    IsQueryCharacter (Char.ofNat byte.toNat) := by
  have each : ∀ code < 0x80, isWritten (UInt8.ofNat code) = true →
      (Char.ofNat code).isAlphanum ∨
        Char.ofNat code ∈ ['.', '-', '*', '_', '+', '%', '&', '='] := by
    decide
  exact each byte.toNat (lt_of_isWritten written) (by simpa using written)

theorem isQueryCharacter_of_mem_encode {character : Char}
    (mem : character ∈ (encode text).toList) : IsQueryCharacter character := by
  rw [encode, String.toList_ofList] at mem
  rcases List.mem_map.mp mem with ⟨byte, written, rfl⟩
  exact isQueryCharacter_of_isWritten (isWritten_of_mem_encodeBytes written)

/-- A written query holds nothing that would end it, split it otherwise or need another encoding. -/
theorem isQueryCharacter_of_mem_write {pairs : List (String × String)} {character : Char}
    (mem : character ∈ (write pairs).toList) : IsQueryCharacter character := by
  rcases Text.of_mem_intercalate mem with between | ⟨text, written, mem⟩
  · rw [List.mem_singleton.mp between]
    exact .inr (by decide)
  · rcases List.mem_map.mp written with ⟨pair, _, rfl⟩
    rw [String.toList_append, String.toList_append, List.mem_append, List.mem_append] at mem
    rcases mem with (mem | mem) | mem
    · exact isQueryCharacter_of_mem_encode mem
    · rw [List.mem_singleton.mp mem]
      exact .inr (by decide)
    · exact isQueryCharacter_of_mem_encode mem

end Form

end LinkGuard
