import LinkGuard.Proofs.Message.RoundTrip
import LinkGuard.Proofs.Wire.Fields
import Mathlib.Data.List.Induction

/-!
# Bodies of other writers

A compact body need not be one that this program writes. Fields may come in any order and more than
once, threats may be listed one by one, in chunks or both, and fields of newer versions may stand
between them. The last link counts, the threats add up in the order in which they appear, and numbers
of newer threats are dropped without disturbing their neighbours.

It follows that one body behind another adds to what the first one says, and that rewriting a body
with the fields this program writes says the same.
-/

namespace LinkGuard

/-- The threat that the low 32 bits of a number stand for. -/
def Threat.ofLowBits? (value : Nat) : Option Threat :=
  all.find? fun threat => threat.number = value % Nat.pow 2 32

theorem Threat.ofNumber?_signed32 (value : Nat) :
    ofNumber? (Wire.signed32 value) = ofLowBits? value := by
  have limit : Nat.pow 2 32 = 4294967296 := rfl
  have signed_eq : Wire.signed32 value = Int.bmod value (Nat.pow 2 32) := rfl
  have same (threat : Threat) :
      (threat.number : Int) = Wire.signed32 value ↔ threat.number = value % Nat.pow 2 32 := by
    have small := threat.number_lt
    rw [signed_eq, limit, Int.bmod_def]
    split <;> omega
  simp only [ofNumber?, ofLowBits?, same]

theorem Threat.ofNumbers_eq (numbers : List Nat) :
    ofNumbers numbers = numbers.filterMap ofLowBits? := by
  simp only [ofNumbers, ofNumber?_signed32]

theorem Threat.length_ofNumbers_le (numbers : List Nat) :
    (ofNumbers numbers).length ≤ numbers.length :=
  List.length_filterMap_le _ _

open Wire

namespace LookupRequest

variable {parts : List Part} {first : LookupRequest} {body : List UInt8}

/-- What the fields of a request hold. -/
def role? : Nat → Option Role
  | 1 => some .text
  | 2 => some .numbers
  | _ => none

/-- What a field adds to a request. -/
def merge (request : LookupRequest) : Part → LookupRequest
  | .text uri => { request with uri }
  | .numbers values => { request with threats := request.threats ++ Threat.ofNumbers values }
  | .other => request

theorem merges : Merges fields role? merge where
  text {tag} role := by
    have tag_eq : tag = 1 := by grind [role?]
    subst tag_eq
    exact ⟨_, rfl, fun _ _ _ => rfl⟩
  numbers {tag} role := by
    have tag_eq : tag = 2 := by grind [role?]
    subst tag_eq
    exact ⟨_, rfl, fun _ _ _ => rfl⟩
  unknown {tag} role := by
    have known : tag ≠ 1 ∧ tag ≠ 2 := by grind [role?]
    simp [fields, known.1.symm, known.2.symm]
  other _ := rfl

theorem foldl_merge (first : LookupRequest) (parts : List Part) :
    parts.foldl merge first =
      ⟨(lastText? parts).getD first.uri, first.threats ++ Threat.ofNumbers (allNumbers parts)⟩ := by
  induction parts using List.reverseRecOn with
  | nil => simp [lastText?, allNumbers, Threat.ofNumbers]
  | append_singleton parts part ih =>
      rw [List.foldl_append, List.foldl_cons, List.foldl_nil, ih, lastText?_append,
        allNumbers_append]
      cases part with
      | text uri => simp [merge, lastText?, allNumbers, Part.text?, Part.values]
      | numbers values => simp [merge, lastText?, allNumbers, Part.text?, Part.values, Threat.ofNumbers]
      | other => simp [merge, lastText?, allNumbers, Part.text?, Part.values]

end LookupRequest

namespace LookupResponse

/-- What the fields of a response hold. -/
def role? : Nat → Option Role
  | 1 => some .numbers
  | _ => none

/-- What a field adds to a response. -/
def merge (response : LookupResponse) : Part → LookupResponse
  | .numbers values => { response with threats := response.threats ++ Threat.ofNumbers values }
  | .text _ | .other => response

theorem merges : Merges fields role? merge where
  text {tag} role := by grind [role?]
  numbers {tag} role := by
    have tag_eq : tag = 1 := by grind [role?]
    subst tag_eq
    exact ⟨_, rfl, fun _ _ _ => rfl⟩
  unknown {tag} role := by
    have known : tag ≠ 1 := by grind [role?]
    simp [fields, known.symm]
  other _ := rfl

theorem foldl_merge (first : LookupResponse) (parts : List Part) :
    parts.foldl merge first = ⟨first.threats ++ Threat.ofNumbers (allNumbers parts)⟩ := by
  induction parts using List.reverseRecOn with
  | nil => simp [allNumbers, Threat.ofNumbers]
  | append_singleton parts part ih =>
      rw [List.foldl_append, List.foldl_cons, List.foldl_nil, ih, allNumbers_append]
      cases part with
      | numbers values => simp [merge, allNumbers, Part.values, Threat.ofNumbers]
      | text uri => simp [merge, allNumbers, Part.values]
      | other => simp [merge, allNumbers, Part.values]

end LookupResponse

namespace Message

/-- The compact bodies of a kind of messages are read field by field; `meaning` is what fields make
of a message that has been read before them. -/
structure ReadsFields (α : Type) [Message α] (role? : Nat → Option Role)
    (meaning : α → List Part → α) : Prop where
  /-- Fields are accepted in any order. -/
  accepted {parts : List Part} {body : List UInt8}
    (isSequence : IsSequence role? (fun _ => IsPlain) parts body) :
    read .compact body = .ok (meaning empty parts)
  /-- A body that is accepted on its own adds its fields to what stands before it. -/
  appended {later : List UInt8} {second : α} (read_eq : read .compact later = .ok second) :
    ∃ parts, IsSequence role? (Passes []) parts later ∧ second = meaning empty parts ∧
      ∀ {body : List UInt8} {first : α}, read .compact body = .ok first →
        read .compact (body ++ later) = .ok (meaning first parts)
  /-- What has been read from a body in memory stays the same when it is written and read again. -/
  rewritten {body : List UInt8} {message : α} (inMemory : body.length < Nat.pow 2 64)
    (read_eq : read .compact body = .ok message) :
    read .compact (write .compact message) = .ok message

section Reading

variable {α : Type} [Message α] {role? : Nat → Option Role} {merge : α → Part → α}
  {parts : List Part} {body : List UInt8} {message : α}

theorem read_compact_eq_ok_iff (merges : Merges fields role? merge) :
    read .compact body = .ok message ↔
      ∃ parts, IsSequence role? (Passes []) parts body ∧ message = parts.foldl merge empty := by
  rw [read, mapError_eq_ok_iff, merges.readMessage_eq_ok_iff]

/-- It is enough to know how fields are merged, and that what a body says can be written. -/
theorem readsFields_of_merges (merges : Merges fields role? merge)
    (written : ∀ {parts body}, IsSequence role? (Passes []) parts body →
      body.length < Nat.pow 2 64 →
      readMessage fields empty (toCompact (parts.foldl merge empty)) =
        .ok (parts.foldl merge empty)) :
    ReadsFields α role? fun first parts => parts.foldl merge first where
  accepted isSequence := by
    refine (read_compact_eq_ok_iff merges).mpr ⟨_, isSequence.mono ?_, rfl⟩
    intro tag kind value plain
    exact .last (.plain plain)
  appended read_eq := by
    rcases (read_compact_eq_ok_iff merges).mp read_eq with ⟨parts, isSequence, rfl⟩
    refine ⟨parts, isSequence, rfl, ?_⟩
    intro body first first_eq
    rcases (read_compact_eq_ok_iff merges).mp first_eq with ⟨before, isBefore, rfl⟩
    refine (read_compact_eq_ok_iff merges).mpr ⟨before ++ parts, isBefore.append isSequence, ?_⟩
    rw [List.foldl_append]
  rewritten inMemory read_eq := by
    rcases (read_compact_eq_ok_iff merges).mp read_eq with ⟨parts, isSequence, rfl⟩
    exact mapError_eq_ok_iff.mpr (written isSequence inMemory)

end Reading

/-- Requests and responses are read field by field: the last link counts, the threats add up in
order, and numbers whose low 32 bits name no threat are left out. -/
theorem reads_fields :
    ReadsFields LookupRequest LookupRequest.role? (fun first parts =>
      ⟨(lastText? parts).getD first.uri,
        first.threats ++ (allNumbers parts).filterMap Threat.ofLowBits?⟩) ∧
    ReadsFields LookupResponse LookupResponse.role? (fun first parts =>
      ⟨first.threats ++ (allNumbers parts).filterMap Threat.ofLowBits?⟩) := by
  simp only [← Threat.ofNumbers_eq, ← LookupRequest.foldl_merge, ← LookupResponse.foldl_merge]
  constructor
  · apply readsFields_of_merges LookupRequest.merges
    intro parts body isSequence inMemory
    apply LookupRequest.readMessage_toCompact
    rw [LookupRequest.foldl_merge]
    have count := isSequence.length_allNumbers_le
    have kept := Threat.length_ofNumbers_le (allNumbers parts)
    refine ⟨?_, ?_⟩
    · rcases last : lastText? parts with _ | uri
      · have short : (Utf8.encode "").length < Nat.pow 2 64 := by decide
        exact short
      · exact isSequence.length_lastText?_lt last
    · simp only [empty, List.nil_append]
      omega
  · apply readsFields_of_merges LookupResponse.merges
    intro parts body isSequence inMemory
    apply LookupResponse.readMessage_toCompact
    rw [LookupResponse.foldl_merge]
    have count := isSequence.length_allNumbers_le
    have kept := Threat.length_ofNumbers_le (allNumbers parts)
    simp only [LookupResponse.Fits, empty, List.nil_append]
    omega

/-- A list in pieces, a number with a needless byte, another with high bits, and fields of newer
versions between two links. -/
theorem reads_fields_mixed :
    IsSequence LookupRequest.role? (fun _ => IsPlain)
        [.text "a", .numbers [1], .other, .numbers [3, 99, 4294967298], .text "b"]
        [10, 1, 97, 16, 129, 0, 77, 1, 2, 3, 4, 18, 7, 3, 99, 130, 128, 128, 128, 16, 10, 1, 98] ∧
      read .compact
          [10, 1, 97, 16, 129, 0, 77, 1, 2, 3, 4, 18, 7, 3, 99, 130, 128, 128, 128, 16, 10, 1, 98] =
        .ok (⟨"b", [.malware, .unwantedSoftware, .socialEngineering]⟩ : LookupRequest) := by
  have isSequence : IsSequence LookupRequest.role? (fun _ => IsPlain)
      [.text "a", .numbers [1], .other, .numbers [3, 99, 4294967298], .text "b"]
      [10, 1, 97, 16, 129, 0, 77, 1, 2, 3, 4, 18, 7, 3, 99, 130, 128, 128, 128, 16, 10, 1, 98] := by
    have link (letter : String) (byte : UInt8) (encode_eq : Utf8.encode letter = [byte]) :
        IsField LookupRequest.role? (fun _ => IsPlain) (.text letter) ([10] ++ [1, byte]) := by
      have chunk : IsChunk (Utf8.encode letter) [1, byte] := by
        rw [encode_eq]
        exact ⟨[1], .of_readNumber rfl, rfl⟩
      have isKey : IsKey 1 .chunk [10] := .of_readKey rfl
      exact .text rfl isKey chunk
    have single : IsNumbers .varint [1] [129, 0] := .single (.of_readNumber rfl)
    have packed : IsNumbers .chunk [3, 99, 4294967298] [7, 3, 99, 130, 128, 128, 128, 16] := by
      have each : List.Forall₂ IsNumber [3, 99, 4294967298]
          [[3], [99], [130, 128, 128, 128, 16]] :=
        .cons (.of_readNumber rfl) (.cons (.of_readNumber rfl) (.cons (.of_readNumber rfl) .nil))
      exact .packed each ⟨[7], .of_readNumber rfl, rfl⟩
    refine ⟨[[10] ++ [1, 97], [16] ++ [129, 0], [77] ++ [1, 2, 3, 4],
      [18] ++ [7, 3, 99, 130, 128, 128, 128, 16], [10] ++ [1, 98]], ?_, rfl⟩
    refine .cons (link "a" 97 (by decide)) (.cons ?_ (.cons ?_ (.cons ?_
      (.cons (link "b" 98 (by decide)) .nil))))
    · have isKey : IsKey 2 .varint [16] := .of_readKey rfl
      exact .numbers rfl isKey single
    · have isKey : IsKey 9 .bits32 [77] := .of_readKey rfl
      exact .other rfl isKey (.bits32 rfl)
    · have isKey : IsKey 2 .chunk [18] := .of_readKey rfl
      exact .numbers rfl isKey packed
  have read_eq := reads_fields.1.accepted isSequence
  exact ⟨isSequence, read_eq⟩

end Message

end LinkGuard
