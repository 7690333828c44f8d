import LinkGuard.Proofs.Wire.Reading

/-!
# Messages as sequences of fields

What a body says is the sequence of its fields: texts, lists of numbers, and fields that the message
does not know. A body is accepted just if it is the bytes of such a sequence, and then the message is
what merging the fields one after another makes of the first one.
-/

namespace LinkGuard.Wire

/-- What one field says. -/
inductive Part where
  | text (text : String)
  | numbers (values : List Nat)
  | other
  deriving Repr

/-- The text that a field sets. -/
def Part.text? : Part → Option String
  | .text content => some content
  | .numbers _ | .other => none

/-- The numbers that a field adds. -/
def Part.values : Part → List Nat
  | .numbers values => values
  | .text _ | .other => []

/-- The text that the last field of texts sets. -/
def lastText? (parts : List Part) : Option String :=
  (parts.filterMap Part.text?).getLast?

/-- The numbers of all fields, in the order of the fields. -/
def allNumbers (parts : List Part) : List Nat :=
  parts.flatMap Part.values

/-- What the fields with a tag hold. -/
inductive Role where
  | text
  | numbers
  deriving DecidableEq, Repr

/-- The bytes of a field. A message says which of its tags it knows, and `passed` says what may
stand behind the key of an unknown one. -/
inductive IsField (role? : Nat → Option Role) (passed : Nat → Kind → List UInt8 → Prop) :
    Part → List UInt8 → Prop where
  | text {tag : Nat} {text : String} {key value : List UInt8} (role : role? tag = some .text)
      (isKey : IsKey tag .chunk key) (chunk : IsChunk (Utf8.encode text) value) :
      IsField role? passed (.text text) (key ++ value)
  | numbers {tag : Nat} {kind : Kind} {values : List Nat} {key value : List UInt8}
      (role : role? tag = some .numbers) (isKey : IsKey tag kind key)
      (numbers : IsNumbers kind values value) : IsField role? passed (.numbers values) (key ++ value)
  | other {tag : Nat} {kind : Kind} {key value : List UInt8} (role : role? tag = none)
      (isKey : IsKey tag kind key) (passes : passed tag kind value) :
      IsField role? passed .other (key ++ value)

/-- The bytes are those of the fields, one after another. -/
def IsSequence (role? : Nat → Option Role) (passed : Nat → Kind → List UInt8 → Prop)
    (parts : List Part) (bytes : List UInt8) : Prop :=
  ∃ pieces, List.Forall₂ (IsField role? passed) parts pieces ∧ bytes = pieces.flatten

section Sequences

variable {role? : Nat → Option Role} {passed allowed : Nat → Kind → List UInt8 → Prop}
  {part : Part} {parts others : List Part} {piece bytes rest : List UInt8}

theorem lastText?_append (parts others : List Part) :
    lastText? (parts ++ others) = (lastText? others).or (lastText? parts) := by
  rw [lastText?, List.filterMap_append, List.getLast?_append]
  rfl

theorem allNumbers_append (parts others : List Part) :
    allNumbers (parts ++ others) = allNumbers parts ++ allNumbers others :=
  List.flatMap_append

namespace IsField

theorem length_values_le (isField : IsField role? passed part piece) :
    part.values.length ≤ piece.length := by
  cases isField with
  | text => exact Nat.zero_le _
  | @numbers tag kind values key value role isKey numbers =>
      have own := numbers.length_le
      rw [List.length_append]
      exact Nat.le_trans own (Nat.le_add_left _ _)
  | other => exact Nat.zero_le _

theorem length_text_lt (isField : IsField role? passed part piece) {text : String}
    (text_eq : part.text? = some text) : (Utf8.encode text).length < Nat.pow 2 64 := by
  cases isField with
  | text role isKey chunk =>
      cases text_eq
      rcases chunk with ⟨length, number, _⟩
      exact number.fits
  | numbers => cases text_eq
  | other => cases text_eq

end IsField

namespace IsSequence

theorem nil : IsSequence role? passed [] [] :=
  ⟨[], List.Forall₂.nil, rfl⟩

theorem cons (isField : IsField role? passed part piece)
    (isSequence : IsSequence role? passed parts rest) :
    IsSequence role? passed (part :: parts) (piece ++ rest) := by
  rcases isSequence with ⟨pieces, each, rfl⟩
  exact ⟨piece :: pieces, List.Forall₂.cons isField each, rfl⟩

theorem append (first : IsSequence role? passed parts bytes)
    (second : IsSequence role? passed others rest) :
    IsSequence role? passed (parts ++ others) (bytes ++ rest) := by
  rcases first with ⟨pieces, each, rfl⟩
  rcases second with ⟨more, eachOther, rfl⟩
  refine ⟨pieces ++ more, ?_, List.flatten_append.symm⟩
  exact List.rel_append each eachOther

theorem mono (isSequence : IsSequence role? passed parts bytes)
    (weaker : ∀ {tag kind value}, passed tag kind value → allowed tag kind value) :
    IsSequence role? allowed parts bytes := by
  rcases isSequence with ⟨pieces, each, rfl⟩
  refine ⟨pieces, each.imp ?_, rfl⟩
  intro part piece isField
  cases isField with
  | text role isKey chunk => exact .text role isKey chunk
  | numbers role isKey numbers => exact .numbers role isKey numbers
  | other role isKey passes => exact .other role isKey (weaker passes)

theorem length_allNumbers_le (isSequence : IsSequence role? passed parts bytes) :
    (allNumbers parts).length ≤ bytes.length := by
  rcases isSequence with ⟨pieces, each, rfl⟩
  induction each with
  | nil => exact Nat.le_refl 0
  | @cons part piece parts pieces isField _ ih =>
      have own := isField.length_values_le
      rw [allNumbers] at ih ⊢
      rw [List.flatMap_cons, List.flatten_cons, List.length_append, List.length_append]
      omega

/-- A text that a field sets is no longer than what a chunk can hold. -/
theorem length_lastText?_lt (isSequence : IsSequence role? passed parts bytes) {text : String}
    (last : lastText? parts = some text) : (Utf8.encode text).length < Nat.pow 2 64 := by
  rcases isSequence with ⟨pieces, each, rfl⟩
  rcases List.mem_filterMap.mp (List.mem_of_getLast? last) with ⟨part, mem, text_eq⟩
  rcases List.forall₂_iff_get.mp each with ⟨_, same⟩
  rcases List.mem_iff_get.mp mem with ⟨place, rfl⟩
  exact (same place place.isLt (by omega)).length_text_lt text_eq

end IsSequence

end Sequences

section Rounds

variable {α : Type} {fields : List (Field α)} {first last : α} {bytes : List UInt8}

/-- What a round of reading does behind the key of a field. -/
inductive Round (fields : List (Field α)) (fuel tag : Nat) (kind : Kind) (first last : α)
    (bytes : List UInt8) : Prop where
  | known {field : Field α} {second : α} {rest : List UInt8}
      (found : fields.find? (fun field => field.tag == tag) = some field)
      (merged : field.merge kind first bytes = .ok (second, rest))
      (goesOn : readFields fields fuel second rest = .ok last) :
      Round fields fuel tag kind first last bytes
  | unknown {rest : List UInt8} (none_eq : fields.find? (fun field => field.tag == tag) = none)
      (skipped : skip (fuel + 1) [] tag kind bytes = .ok rest)
      (goesOn : readFields fields fuel first rest = .ok last) :
      Round fields fuel tag kind first last bytes

theorem round_of_readFields {fuel : Nat} {byte : UInt8}
    (read_eq : readFields fields (fuel + 1) first (byte :: bytes) = .ok last) :
    ∃ tag kind key behind, byte :: bytes = key ++ behind ∧ IsKey tag kind key ∧
      Round fields fuel tag kind first last behind := by
  rw [readFields] at read_eq
  rcases exists_of_bind_eq_ok read_eq with ⟨⟨⟨tag, kind⟩, behind⟩, key_eq, goesOn⟩
  rw [mapError_eq_ok_iff, readKey_eq_ok_iff] at key_eq
  rcases key_eq with ⟨key, bytes_eq, isKey⟩
  refine ⟨tag, kind, key, behind, bytes_eq, isKey, ?_⟩
  dsimp only at goesOn
  split at goesOn
  case h_1 field found =>
    rcases exists_of_bind_eq_ok goesOn with ⟨⟨second, rest⟩, merged, goesOn⟩
    exact .known found (mapError_eq_ok_iff.mp merged) goesOn
  case h_2 none_eq =>
    rcases exists_of_bind_eq_ok goesOn with ⟨rest, skipped, goesOn⟩
    exact .unknown none_eq (mapError_eq_ok_iff.mp skipped) goesOn

end Rounds

section Merging

variable {α : Type} {fields : List (Field α)} {role? : Nat → Option Role} {merge : α → Part → α}
  {first last : α} {part : Part} {piece bytes : List UInt8}

/-- The fields hold what their roles say, and merge it into a message. -/
structure Merges (fields : List (Field α)) (role? : Nat → Option Role) (merge : α → Part → α) :
    Prop where
  text {tag : Nat} (role : role? tag = some .text) :
    ∃ field, fields.find? (fun field => field.tag == tag) = some field ∧
      ∀ kind message bytes, field.merge kind message bytes =
        (readText kind bytes).bind fun (text, rest) => .ok (merge message (.text text), rest)
  numbers {tag : Nat} (role : role? tag = some .numbers) :
    ∃ field, fields.find? (fun field => field.tag == tag) = some field ∧
      ∀ kind message bytes, field.merge kind message bytes =
        (readNumbers kind bytes).bind fun (values, rest) => .ok (merge message (.numbers values), rest)
  unknown {tag : Nat} (role : role? tag = none) :
    fields.find? (fun field => field.tag == tag) = none
  other (message : α) : merge message .other = message

namespace Merges

theorem carries (merges : Merges fields role? merge) (first : α)
    (isField : IsField role? (Passes []) part piece) :
    Carries fields first piece (merge first part) := by
  cases isField with
  | @text tag text key value role isKey chunk =>
      rcases merges.text role with ⟨field, found, merge_eq⟩
      apply Carries.known isKey found
      intro rest
      have read_eq : readText .chunk (value ++ rest) = .ok (text, rest) :=
        readText_eq_ok_iff.mpr ⟨rfl, value, rfl, chunk⟩
      rw [merge_eq, read_eq]
      rfl
  | @numbers tag kind values key value role isKey numbers =>
      rcases merges.numbers role with ⟨field, found, merge_eq⟩
      apply Carries.known isKey found
      intro rest
      have read_eq : readNumbers kind (value ++ rest) = .ok (values, rest) :=
        readNumbers_eq_ok_iff.mpr ⟨value, rfl, numbers⟩
      rw [merge_eq, read_eq]
      rfl
  | other role isKey passes =>
      rw [merges.other]
      exact Carries.unknown isKey (merges.unknown role) passes

theorem find?_eq_none_iff (merges : Merges fields role? merge) {tag : Nat} :
    fields.find? (fun field => field.tag == tag) = none ↔ role? tag = none := by
  constructor
  · intro none_eq
    cases role_eq : role? tag with
    | none => rfl
    | some role =>
        cases role with
        | text =>
            rcases merges.text role_eq with ⟨field, found, _⟩
            cases none_eq.symm.trans found
        | numbers =>
            rcases merges.numbers role_eq with ⟨field, found, _⟩
            cases none_eq.symm.trans found
  · exact merges.unknown

/-- What a known field merges is what the bytes behind its key say. -/
theorem isField_of_merge (merges : Merges fields role? merge) {tag : Nat} {kind : Kind}
    {field : Field α} {second : α} {key behind rest : List UInt8} (isKey : IsKey tag kind key)
    (found : fields.find? (fun field => field.tag == tag) = some field)
    (merged : field.merge kind first behind = .ok (second, rest)) :
    ∃ part value, behind = value ++ rest ∧ IsField role? (Passes []) part (key ++ value) ∧
      second = merge first part := by
  cases role_eq : role? tag with
  | none =>
      rw [merges.unknown role_eq] at found
      cases found
  | some role =>
      cases role with
      | text =>
          rcases merges.text role_eq with ⟨field, same, merge_eq⟩
          cases same.symm.trans found
          rw [merge_eq] at merged
          rcases exists_of_bind_eq_ok merged with ⟨⟨text, rest⟩, text_eq, second_eq⟩
          cases second_eq
          rcases readText_eq_ok_iff.mp text_eq with ⟨rfl, value, rfl, chunk⟩
          exact ⟨.text text, value, rfl, .text role_eq isKey chunk, rfl⟩
      | numbers =>
          rcases merges.numbers role_eq with ⟨field, same, merge_eq⟩
          cases same.symm.trans found
          rw [merge_eq] at merged
          rcases exists_of_bind_eq_ok merged with ⟨⟨values, rest⟩, numbers_eq, second_eq⟩
          cases second_eq
          rcases readNumbers_eq_ok_iff.mp numbers_eq with ⟨value, rfl, numbers⟩
          exact ⟨.numbers values, value, rfl, .numbers role_eq isKey numbers, rfl⟩

/-- A round takes the bytes of one field, and merges what it says. -/
theorem isField_of_readFields (merges : Merges fields role? merge) {fuel : Nat} {byte : UInt8}
    (read_eq : readFields fields (fuel + 1) first (byte :: bytes) = .ok last) :
    ∃ part piece rest, byte :: bytes = piece ++ rest ∧ IsField role? (Passes []) part piece ∧
      readFields fields fuel (merge first part) rest = .ok last := by
  rcases round_of_readFields read_eq with ⟨tag, kind, key, behind, bytes_eq, isKey, round⟩
  rw [bytes_eq]
  cases round with
  | @known field second rest found merged goesOn =>
      rcases merges.isField_of_merge isKey found merged with ⟨part, value, rfl, isField, rfl⟩
      exact ⟨part, key ++ value, rest, (List.append_assoc ..).symm, isField, goesOn⟩
  | @unknown rest none_eq skipped goesOn =>
      rcases passes_of_skip skipped with ⟨value, rfl, passes⟩
      have isField : IsField role? (Passes []) .other (key ++ value) :=
        .other (merges.find?_eq_none_iff.mp none_eq) isKey passes
      refine ⟨.other, key ++ value, rest, (List.append_assoc ..).symm, isField, ?_⟩
      rwa [merges.other]

/-- What is read from a body in rounds is read from the fields that the rounds take. -/
theorem isSequence_of_readFields (merges : Merges fields role? merge) {fuel : Nat}
    (read_eq : readFields fields fuel first bytes = .ok last) :
    ∃ parts, IsSequence role? (Passes []) parts bytes ∧ last = parts.foldl merge first := by
  induction fuel generalizing first bytes with
  | zero =>
      cases bytes with
      | nil =>
          cases read_eq
          exact ⟨[], IsSequence.nil, rfl⟩
      | cons => cases read_eq
  | succ fuel ih =>
      cases bytes with
      | nil =>
          cases read_eq
          exact ⟨[], IsSequence.nil, rfl⟩
      | cons byte tail =>
          rcases merges.isField_of_readFields read_eq with
            ⟨part, piece, rest, bytes_eq, isField, goesOn⟩
          rcases ih goesOn with ⟨parts, isSequence, rfl⟩
          rw [bytes_eq]
          exact ⟨part :: parts, .cons isField isSequence, rfl⟩

/-- A body is accepted just if it is a sequence of fields, and they make the message. -/
theorem readMessage_eq_ok_iff (merges : Merges fields role? merge) :
    readMessage fields first bytes = .ok last ↔
      ∃ parts, IsSequence role? (Passes []) parts bytes ∧ last = parts.foldl merge first := by
  constructor
  · exact merges.isSequence_of_readFields
  · rintro ⟨parts, isSequence, rfl⟩
    apply Carries.readMessage_eq
    rcases isSequence with ⟨pieces, each, rfl⟩
    induction each generalizing first with
    | nil => exact Carries.nil first
    | cons isField _ ih => exact (merges.carries first isField).append ih

end Merges

end Merging

end LinkGuard.Wire
