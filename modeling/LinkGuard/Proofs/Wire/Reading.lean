import LinkGuard.Proofs.Wire.Passing

/-!
# Reading the compact format back

What is written for a number, a key, a chunk, a text or a list of numbers is among the bytes that
the readers accept for it, so it is read back, whatever follows.

Bytes *carry* a message to another one if reading them on top of the first leaves the second and
whatever follows. Carrying composes along the fields of a message: a known field carries a message
to the one into which its value is merged, an unknown one changes nothing.
-/

namespace LinkGuard.Wire

section Numbers

variable {value size : Nat}

theorem spells_writeNumber (value : Nat) : Spells value (writeNumber value) := by
  induction value using Nat.strongRecOn with
  | ind value ih =>
      rw [writeNumber]
      split
      case isTrue small =>
        have byte_eq : value.toUInt8.toNat = value := Utf8.toNat_toUInt8 (by omega)
        have ends : value.toUInt8.toNat < 128 := by rwa [byte_eq]
        simpa only [byte_eq] using Spells.last ends
      case isFalse large =>
        have byte_eq : (value % 128 + 128).toUInt8.toNat = value % 128 + 128 :=
          Utf8.toNat_toUInt8 (by omega)
        have whole : (value % 128 + 128).toUInt8.toNat % 128 + 128 * (value / 128) = value := by
          omega
        have goesOn : 128 ≤ (value % 128 + 128).toUInt8.toNat := by omega
        have spells := Spells.next goesOn (ih (value / 128) (by omega))
        rwa [whole] at spells

theorem length_writeNumber_le (small : value < Nat.pow 128 size) (filled : 0 < size) :
    (writeNumber value).length ≤ size := by
  induction value using Nat.strongRecOn generalizing size with
  | ind value ih =>
      rw [writeNumber]
      split
      case isTrue => exact filled
      case isFalse large =>
        cases size with
        | zero => omega
        | succ size =>
            have shifted : Nat.pow 128 (size + 1) = Nat.pow 128 size * 128 := rfl
            have left : 0 < size := by
              rcases Nat.eq_zero_or_pos size with rfl | left
              · have one : Nat.pow 128 0 = 1 := rfl
                omega
              · exact left
            have smaller : value / 128 < Nat.pow 128 size := by omega
            have rest := ih (value / 128) (by omega) smaller left
            rw [List.length_cons]
            omega

theorem isNumber_writeNumber (fits : value < Nat.pow 2 64) : IsNumber value (writeNumber value) where
  spells := spells_writeNumber value
  short := by
    have wide : Nat.pow 2 64 ≤ Nat.pow 128 10 := by decide
    exact length_writeNumber_le (by omega) (by decide)
  fits := fits

end Numbers

section Values

variable {tag : Nat} {bytes : List UInt8} {values : List Nat}

theorem isKey_writeKey (kind : Kind) (positive : tag ≠ 0) (small : tag < Nat.pow 2 29) :
    IsKey tag kind (writeKey tag kind) := by
  have code_lt := kind.code_lt
  have bound : Nat.pow 2 32 = 8 * Nat.pow 2 29 := by decide
  have wide : Nat.pow 2 32 ≤ Nat.pow 2 64 := by decide
  exact ⟨positive, by omega, isNumber_writeNumber (by omega)⟩

theorem isChunk_writeChunk (fits : bytes.length < Nat.pow 2 64) : IsChunk bytes (writeChunk bytes) :=
  ⟨writeNumber bytes.length, isNumber_writeNumber fits, rfl⟩

theorem readText_writeChunk {text : String} (fits : (Utf8.encode text).length < Nat.pow 2 64)
    (rest : List UInt8) :
    readText .chunk (writeChunk (Utf8.encode text) ++ rest) = .ok (text, rest) :=
  readText_eq_ok_iff.mpr ⟨rfl, _, rfl, isChunk_writeChunk fits⟩

/-- A chunk of numbers is read back. -/
theorem readNumbers_writeChunk (fit : ∀ value ∈ values, value < Nat.pow 2 64)
    (fits : (values.flatMap writeNumber).length < Nat.pow 2 64) (rest : List UInt8) :
    readNumbers .chunk (writeChunk (values.flatMap writeNumber) ++ rest) = .ok (values, rest) := by
  have each : List.Forall₂ IsNumber values (values.map writeNumber) := by
    rw [List.forall₂_map_right_iff, List.forall₂_same]
    intro value mem
    exact isNumber_writeNumber (fit value mem)
  have chunk : IsChunk (values.map writeNumber).flatten (writeChunk (values.flatMap writeNumber)) :=
    isChunk_writeChunk fits
  exact readNumbers_eq_ok_iff.mpr ⟨_, rfl, .packed each chunk⟩

end Values

section Fields

variable {α : Type}

/-- Read on top of the first message, the bytes leave the other one and whatever follows them. -/
def Carries (fields : List (Field α)) (first : α) (bytes : List UInt8) (last : α) : Prop :=
  ∀ fuel rest, (bytes ++ rest).length ≤ fuel → ∃ left, rest.length ≤ left ∧
    readFields fields fuel first (bytes ++ rest) = readFields fields left last rest

namespace Carries

variable {fields : List (Field α)} {first second third : α} {bytes key others : List UInt8}
  {tag : Nat} {kind : Kind}

theorem nil (message : α) : Carries fields message [] message := by
  intro fuel rest enough
  exact ⟨fuel, enough, rfl⟩

theorem append (left : Carries fields first bytes second)
    (right : Carries fields second others third) :
    Carries fields first (bytes ++ others) third := by
  intro fuel rest enough
  rw [List.append_assoc] at enough ⊢
  rcases left fuel (others ++ rest) enough with ⟨middle, middle_enough, left_eq⟩
  rcases right middle rest middle_enough with ⟨last, last_enough, right_eq⟩
  exact ⟨last, last_enough, left_eq.trans right_eq⟩

/-- A round reads a key and leaves the rest of the fuel to what follows it. -/
theorem of_key (isKey : IsKey tag kind key)
    (round : ∀ fuel rest, (bytes ++ rest).length ≤ fuel →
      ∀ byte tail, readKey (byte :: tail) = .ok ((tag, kind), bytes ++ rest) →
        readFields fields (fuel + 1) first (byte :: tail) = readFields fields fuel second rest) :
    Carries fields first (key ++ bytes) second := by
  intro fuel rest enough
  have filled := isKey.length_pos
  have read_eq : readKey (key ++ (bytes ++ rest)) = .ok ((tag, kind), bytes ++ rest) :=
    readKey_eq_ok_iff.mpr ⟨key, rfl, isKey⟩
  rw [List.append_assoc] at enough ⊢
  cases key with
  | nil => cases filled
  | cons byte tail =>
      cases fuel with
      | zero => cases enough
      | succ fuel =>
          rw [List.cons_append] at enough read_eq ⊢
          have left : (bytes ++ rest).length ≤ fuel := by
            simp only [List.length_cons, List.length_append] at enough ⊢
            omega
          refine ⟨fuel, ?_, round fuel rest left _ _ read_eq⟩
          rw [List.length_append] at left
          omega

/-- A key and a value carry a message to the one into which the value is merged. -/
theorem known {field : Field α} (isKey : IsKey tag kind key)
    (found : fields.find? (fun field => field.tag == tag) = some field)
    (merged : ∀ rest, field.merge kind first (bytes ++ rest) = .ok (second, rest)) :
    Carries fields first (key ++ bytes) second := by
  apply of_key isKey
  intro fuel rest enough byte tail read_eq
  simp only [readFields, read_eq, mapError_ok, bind, Except.bind, found, merged]

theorem unknown (isKey : IsKey tag kind key)
    (none_eq : fields.find? (fun field => field.tag == tag) = none)
    (passes : Passes [] tag kind bytes) : Carries fields first (key ++ bytes) first := by
  apply of_key isKey
  intro fuel rest enough byte tail read_eq
  have skipped : skip (fuel + 1) [] tag kind (bytes ++ rest) = .ok rest :=
    skip_of_passes passes (by omega)
  simp only [readFields, read_eq, mapError_ok, bind, Except.bind, none_eq, skipped]

theorem field {field : Field α} (positive : tag ≠ 0) (small : tag < Nat.pow 2 29)
    (found : fields.find? (fun field => field.tag == tag) = some field)
    (merged : ∀ rest, field.merge kind first (bytes ++ rest) = .ok (second, rest)) :
    Carries fields first (writeKey tag kind ++ bytes) second :=
  known (isKey_writeKey kind positive small) found merged

theorem readMessage_eq (carries : Carries fields first bytes second) :
    readMessage fields first bytes = .ok second := by
  have enough : (bytes ++ []).length ≤ bytes.length :=
    Nat.le_of_eq (congrArg List.length (List.append_nil bytes))
  rcases carries bytes.length [] enough with ⟨left, _, read_eq⟩
  rw [List.append_nil] at read_eq
  rw [readMessage, read_eq, readFields]

end Carries

end Fields

end LinkGuard.Wire
