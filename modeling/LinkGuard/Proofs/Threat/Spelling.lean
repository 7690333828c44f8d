import LinkGuard.Message
import LinkGuard.Proofs.Json.Reading
import LinkGuard.Proofs.Wire.Reading

/-!
# Spellings of threats

Lists of threats are read back from both of their written forms, with the order and the repeats
they have: from the names in JSON, and from the numbers in a field of the compact format, which is
left out when there are none.
-/

namespace LinkGuard.Threat

open Wire

theorem reads_toJson (threat : Threat) :
    Json.Reads Threat.read (Utf8.encode threat.toJson) threat :=
  Json.reads_variant (ofApiName?_apiName threat)

theorem reads_listToJson (threats : List Threat) :
    Json.Reads (Json.Read.list Threat.read) (Utf8.encode (listToJson threats)) threats :=
  Json.reads_list fun threat _ => reads_toJson threat

section Numbers

variable {threats : List Threat}

theorem signed32_number (threat : Threat) : signed32 threat.number = threat.number := by
  cases threat <;> rfl

@[simp]
theorem ofNumbers_map_number (threats : List Threat) :
    ofNumbers (threats.map number) = threats := by
  have each : (fun value => ofNumber? (signed32 value)) ∘ number = some := by
    funext threat
    rw [Function.comp_apply, signed32_number, ofNumber?_number]
  rw [ofNumbers, List.filterMap_map, each, List.filterMap_some]

theorem number_lt (threat : Threat) : threat.number < 128 := by
  cases threat <;> decide

theorem length_flatMap_writeNumber (threats : List Threat) :
    ((threats.map number).flatMap writeNumber).length = threats.length := by
  induction threats with
  | nil => rfl
  | cons threat threats ih =>
      have byte : (writeNumber threat.number).length = 1 := by
        rw [writeNumber, if_pos threat.number_lt, List.length_singleton]
      rw [List.map_cons, List.flatMap_cons, List.length_append, byte, ih, List.length_cons,
        Nat.add_comm]

theorem readNumbers_numbers (fits : threats.length < Nat.pow 2 64) (rest : List UInt8) :
    readNumbers .chunk
        (writeChunk (threats.flatMap fun threat => writeNumber threat.number) ++ rest) =
      .ok (threats.map number, rest) := by
  have small : ∀ value ∈ threats.map number, value < Nat.pow 2 64 := by
    intro value mem
    rcases List.mem_map.mp mem with ⟨threat, _, rfl⟩
    have number_lt := threat.number_lt
    have wide : 128 ≤ Nat.pow 2 64 := by decide
    omega
  have bytes_eq : (threats.flatMap fun threat => writeNumber threat.number) =
      (threats.map number).flatMap writeNumber := by
    rw [List.flatMap_map]
  rw [bytes_eq]
  apply readNumbers_writeChunk small
  rw [length_flatMap_writeNumber]
  exact fits

/-- The field of a list of threats carries a message to the one that holds them as well. -/
theorem carries_listToCompact {α : Type} {fields : List (Wire.Field α)} {field : Wire.Field α}
    {tag : Nat} {first second : α} (positive : tag ≠ 0) (small : tag < Nat.pow 2 29)
    (found : fields.find? (fun field => field.tag == tag) = some field)
    (fits : threats.length < Nat.pow 2 64) (unchanged : threats = [] → second = first)
    (merged : ∀ bytes rest, readNumbers .chunk bytes = .ok (threats.map number, rest) →
      field.merge .chunk first bytes = .ok (second, rest)) :
    Carries fields first (listToCompact tag threats) second := by
  rw [listToCompact]
  split
  case isTrue none =>
    rw [unchanged (List.isEmpty_iff.mp none)]
    exact Carries.nil first
  case isFalse =>
    exact Carries.field positive small found fun rest =>
      merged _ rest (readNumbers_numbers fits rest)

end Numbers

end LinkGuard.Threat
