import LinkGuard.Proofs.Outcome
import LinkGuard.Proofs.Text.Exactness
import LinkGuard.Wire.Field
import Mathlib.Data.List.Forall2

/-!
# What the compact format accepts

A message may have been written by somebody else: numbers may take more bytes than they need, and
lists of numbers may come in pieces. We state what the bytes of a number, a key, a chunk, a text and
a list of numbers are, and show that the readers give exactly these and leave what follows.
-/

namespace LinkGuard.Wire

/-- The bytes hold the number seven bits at a time, and perhaps zeros beyond its last bits. -/
inductive Spells : Nat → List UInt8 → Prop where
  | last {byte : UInt8} (ends : byte.toNat < 128) : Spells byte.toNat [byte]
  | next {byte : UInt8} {value : Nat} {bytes : List UInt8} (goesOn : 128 ≤ byte.toNat)
      (rest : Spells value bytes) : Spells (byte.toNat % 128 + 128 * value) (byte :: bytes)

/-- The bytes of a number of 64 bits. -/
structure IsNumber (value : Nat) (bytes : List UInt8) : Prop where
  spells : Spells value bytes
  short : bytes.length ≤ 10
  fits : value < Nat.pow 2 64

section Numbers

variable {value read base left size : Nat} {bytes rest : List UInt8}

theorem Spells.length_pos (spells : Spells value bytes) : 0 < bytes.length := by
  cases spells <;> simp

theorem scaled_next (byte value read : Nat) :
    byte * Nat.pow 128 read + value * Nat.pow 128 (read + 1) =
      (byte + 128 * value) * Nat.pow 128 read := by
  have shifted : Nat.pow 128 (read + 1) = 128 * Nat.pow 128 read := Nat.mul_comm _ _
  rw [shifted, Nat.add_mul, Nat.mul_comm 128 value, Nat.mul_assoc]

/-- `read` bytes of the number are behind, and `left` more may follow the next one. -/
theorem readNumberFrom_of_spells (spells : Spells value bytes) (enough : read + left = 9)
    (short : bytes.length ≤ left + 1) (fits : value < 2 * Nat.pow 128 left) :
    readNumberFrom read base (bytes ++ rest) =
      .ok ((base + value * Nat.pow 128 read, read + bytes.length), rest) := by
  induction spells generalizing read base left with
  | @last byte ends =>
      have tenth : ¬(read = 9 ∧ 1 < byte.toNat) := by
        rintro ⟨rfl, large⟩
        have none : left = 0 := by omega
        subst none
        have two : 2 * Nat.pow 128 0 = 2 := rfl
        omega
      simp only [List.cons_append, List.nil_append, readNumberFrom, ends, if_true, tenth, if_false,
        Nat.mod_eq_of_lt ends, List.length_singleton]
  | @next byte value bytes goesOn spells ih =>
      have filled := spells.length_pos
      rw [List.length_cons] at short
      cases left with
      | zero => omega
      | succ left =>
          have notLast : ¬byte.toNat < 128 := by omega
          have notTenth : read ≠ 9 := by omega
          have shifted : Nat.pow 128 (left + 1) = Nat.pow 128 left * 128 := rfl
          have enough : read + 1 + left = 9 := by omega
          simp only [List.cons_append, readNumberFrom, notLast, if_false, notTenth]
          rw [ih enough (by omega) (by omega), Nat.add_assoc, Nat.add_assoc, scaled_next,
            List.length_cons, Nat.add_comm 1]

theorem spells_of_readNumberFrom (enough : read + left = 9)
    (found : readNumberFrom read base bytes = .ok ((value, size), rest)) :
    ∃ spelled taken, bytes = taken ++ rest ∧ Spells spelled taken ∧ taken.length ≤ left + 1 ∧
      spelled < 2 * Nat.pow 128 left ∧ value = base + spelled * Nat.pow 128 read ∧
      size = read + taken.length := by
  induction bytes generalizing read base left with
  | nil => cases found
  | cons byte tail ih =>
      simp only [readNumberFrom] at found
      split at found
      case isTrue ends =>
        split at found
        case isTrue => cases found
        case isFalse tenth =>
          cases found
          refine ⟨byte.toNat, [byte], rfl, Spells.last ends, by simp, ?_, ?_, rfl⟩
          · cases left with
            | zero =>
                have two : 2 * Nat.pow 128 0 = 2 := rfl
                omega
            | succ left =>
                have shifted : Nat.pow 128 (left + 1) = Nat.pow 128 left * 128 := rfl
                have positive : 0 < Nat.pow 128 left := Nat.pow_pos (by decide)
                omega
          · rw [Nat.mod_eq_of_lt ends]
      case isFalse goesOn =>
        split at found
        case isTrue => cases found
        case isFalse notTenth =>
          cases left with
          | zero => omega
          | succ left =>
              have shifted : Nat.pow 128 (left + 1) = Nat.pow 128 left * 128 := rfl
              rcases ih (by omega : read + 1 + left = 9) found with
                ⟨spelled, taken, rfl, spells, short, fits, rfl, rfl⟩
              refine ⟨_, byte :: taken, rfl, Spells.next (by omega) spells, ?_, ?_, ?_, ?_⟩
              · simpa using short
              · omega
              · rw [Nat.add_assoc, scaled_next]
              · rw [List.length_cons]
                omega

theorem readNumberFrom_eq_ok_iff :
    readNumberFrom 0 0 bytes = .ok ((value, size), rest) ↔
      ∃ taken, bytes = taken ++ rest ∧ IsNumber value taken ∧ size = taken.length := by
  have limit : 2 * Nat.pow 128 9 = Nat.pow 2 64 := by decide
  have one : Nat.pow 128 0 = 1 := rfl
  constructor
  · intro found
    rcases spells_of_readNumberFrom (Nat.zero_add 9) found with
      ⟨spelled, taken, rfl, spells, short, fits, rfl, rfl⟩
    refine ⟨taken, rfl, ⟨?_, short, ?_⟩, by omega⟩
    · simpa [one] using spells
    · simpa [one, ← limit] using fits
  · rintro ⟨taken, rfl, number, rfl⟩
    have fits : value < 2 * Nat.pow 128 9 := by
      rw [limit]
      exact number.fits
    rw [readNumberFrom_of_spells number.spells (Nat.zero_add 9) number.short fits]
    simp

theorem readNumber_eq_ok_iff :
    readNumber bytes = .ok (value, rest) ↔
      ∃ taken, bytes = taken ++ rest ∧ IsNumber value taken := by
  rw [readNumber, map_eq_ok_iff]
  constructor
  · rintro ⟨⟨⟨found, size⟩, behind⟩, read_eq, same⟩
    cases same
    rcases readNumberFrom_eq_ok_iff.mp read_eq with ⟨taken, bytes_eq, number, _⟩
    exact ⟨taken, bytes_eq, number⟩
  · rintro ⟨taken, bytes_eq, number⟩
    exact ⟨_, readNumberFrom_eq_ok_iff.mpr ⟨taken, bytes_eq, number, rfl⟩, rfl⟩

theorem IsNumber.of_readNumber (read_eq : readNumber bytes = .ok (value, [])) :
    IsNumber value bytes := by
  rcases readNumber_eq_ok_iff.mp read_eq with ⟨taken, rfl, number⟩
  rwa [List.append_nil]

end Numbers

/-- The bytes of a key. -/
structure IsKey (tag : Nat) (kind : Kind) (bytes : List UInt8) : Prop where
  positive : tag ≠ 0
  fits : tag * 8 + kind.code < Nat.pow 2 32
  number : IsNumber (tag * 8 + kind.code) bytes

/-- The bytes of a chunk: the length of its content, and the content. -/
def IsChunk (content bytes : List UInt8) : Prop :=
  ∃ length, IsNumber content.length length ∧ bytes = length ++ content

section Values

variable {tag count : Nat} {kind : Kind} {bytes chunk rest : List UInt8} {text : String}

@[simp]
theorem Kind.ofCode?_code (kind : Kind) : Kind.ofCode? kind.code = some kind := by
  cases kind <;> rfl

theorem Kind.code_lt (kind : Kind) : kind.code < 8 := by
  cases kind <;> decide

theorem Kind.code_of_ofCode? {code : Nat} (found : Kind.ofCode? code = some kind) :
    kind.code = code := by
  simpa using List.find?_some found

theorem readKey_eq_ok_iff :
    readKey bytes = .ok ((tag, kind), rest) ↔
      ∃ taken, bytes = taken ++ rest ∧ IsKey tag kind taken := by
  rw [readKey, bind_eq_ok_iff]
  constructor
  · rintro ⟨⟨key, behind⟩, read_eq, found⟩
    dsimp only at found
    split at found
    case isTrue => cases found
    case isFalse fits =>
      split at found
      case h_1 => cases found
      case h_2 known =>
        have code_eq := Kind.code_of_ofCode? known
        split at found
        case isTrue => cases found
        case isFalse positive =>
          cases found
          rcases readNumber_eq_ok_iff.mp read_eq with ⟨taken, bytes_eq, number⟩
          have whole : key / 8 * 8 + kind.code = key := by omega
          exact ⟨taken, bytes_eq, positive, by omega, by rwa [whole]⟩
  · rintro ⟨taken, bytes_eq, positive, fits, number⟩
    have code_lt := kind.code_lt
    have inRange : ¬Nat.pow 2 32 ≤ tag * 8 + kind.code := by omega
    have code_eq : (tag * 8 + kind.code) % 8 = kind.code := by omega
    have tag_eq : (tag * 8 + kind.code) / 8 = tag := by omega
    refine ⟨_, readNumber_eq_ok_iff.mpr ⟨taken, bytes_eq, number⟩, ?_⟩
    simp only [inRange, if_false, code_eq, Kind.ofCode?_code, tag_eq, positive]

theorem IsKey.of_readKey (read_eq : readKey bytes = .ok ((tag, kind), [])) :
    IsKey tag kind bytes := by
  rcases readKey_eq_ok_iff.mp read_eq with ⟨taken, rfl, isKey⟩
  rwa [List.append_nil]

theorem IsKey.length_pos (key : IsKey tag kind bytes) : 0 < bytes.length :=
  key.number.spells.length_pos

theorem takeOnto_eq_ok_iff {taken : List UInt8} :
    takeOnto taken count bytes = .ok (chunk, rest) ↔
      ∃ more, chunk = taken.reverse ++ more ∧ more.length = count ∧ bytes = more ++ rest := by
  induction count generalizing taken bytes with
  | zero =>
      simp only [takeOnto, Except.ok.injEq, Prod.mk.injEq, List.length_eq_zero_iff]
      constructor
      · rintro ⟨rfl, rfl⟩
        exact ⟨[], by simp, rfl, rfl⟩
      · rintro ⟨more, rfl, rfl, rfl⟩
        simp
  | succ count ih =>
      cases bytes with
      | nil =>
          simp only [takeOnto, reduceCtorEq, false_iff]
          rintro ⟨more, _, length_eq, nil_eq⟩
          have empty := (List.append_eq_nil_iff.mp nil_eq.symm).1
          rw [empty] at length_eq
          cases length_eq
      | cons byte tail =>
          rw [takeOnto, ih]
          constructor
          · rintro ⟨more, rfl, rfl, rfl⟩
            exact ⟨byte :: more, by simp, rfl, rfl⟩
          · rintro ⟨more, rfl, length_eq, split⟩
            cases more with
            | nil => cases length_eq
            | cons first more =>
                cases split
                exact ⟨more, by simp, by simpa using length_eq, rfl⟩

theorem take_eq_ok_iff :
    take count bytes = .ok (chunk, rest) ↔ chunk.length = count ∧ bytes = chunk ++ rest := by
  rw [take, takeOnto_eq_ok_iff]
  simp

theorem readChunk_eq_ok_iff :
    readChunk bytes = .ok (chunk, rest) ↔ ∃ taken, bytes = taken ++ rest ∧ IsChunk chunk taken := by
  rw [readChunk, bind_eq_ok_iff]
  constructor
  · rintro ⟨⟨length, behind⟩, read_eq, taken_eq⟩
    rcases take_eq_ok_iff.mp taken_eq with ⟨rfl, rfl⟩
    rcases readNumber_eq_ok_iff.mp read_eq with ⟨taken, rfl, number⟩
    exact ⟨taken ++ chunk, by simp, taken, number, rfl⟩
  · rintro ⟨_, rfl, length, number, rfl⟩
    refine ⟨(chunk.length, chunk ++ rest), ?_, take_eq_ok_iff.mpr ⟨rfl, rfl⟩⟩
    exact readNumber_eq_ok_iff.mpr ⟨length, by simp, number⟩

theorem require_eq_ok_iff {expected found : Kind} : require expected found = .ok () ↔
    found = expected := by
  rw [require]
  split <;> simp [*]

theorem readText_eq_ok_iff :
    readText kind bytes = .ok (text, rest) ↔
      kind = .chunk ∧ ∃ taken, bytes = taken ++ rest ∧ IsChunk (Utf8.encode text) taken := by
  simp only [readText, bind_eq_ok_iff]
  constructor
  · rintro ⟨_, required, ⟨chunk, behind⟩, read_eq, found⟩
    dsimp only at found
    split at found
    case h_1 text' decoded =>
      cases found
      rw [Utf8.decode?_eq_some_iff] at decoded
      subst decoded
      exact ⟨require_eq_ok_iff.mp required, readChunk_eq_ok_iff.mp read_eq⟩
    case h_2 => cases found
  · rintro ⟨rfl, taken⟩
    refine ⟨(), rfl, (Utf8.encode text, rest), readChunk_eq_ok_iff.mpr taken, ?_⟩
    simp

end Values

/-- The bytes of the value of a field of repeated numbers: one number, or a chunk of them. -/
inductive IsNumbers : Kind → List Nat → List UInt8 → Prop where
  | single {value : Nat} {bytes : List UInt8} (number : IsNumber value bytes) :
      IsNumbers .varint [value] bytes
  | packed {values : List Nat} {pieces : List (List UInt8)} {bytes : List UInt8}
      (numbers : List.Forall₂ IsNumber values pieces) (chunk : IsChunk pieces.flatten bytes) :
      IsNumbers .chunk values bytes

section Repeated

variable {kind : Kind} {values all : List Nat} {pieces : List (List UInt8)}
  {bytes rest : List UInt8} {fuel owed : Nat}

theorem length_le_length_flatten (each : List.Forall₂ IsNumber values pieces) :
    values.length ≤ pieces.flatten.length := by
  induction each with
  | nil => exact Nat.le_refl 0
  | cons number _ ih =>
      have filled := number.spells.length_pos
      rw [List.flatten_cons, List.length_append, List.length_cons]
      omega

theorem IsNumbers.length_le (numbers : IsNumbers kind values bytes) :
    values.length ≤ bytes.length := by
  cases numbers with
  | single number => exact number.spells.length_pos
  | packed each chunk =>
      rcases chunk with ⟨length, _, rfl⟩
      rw [List.length_append]
      exact Nat.le_trans (length_le_length_flatten each) (Nat.le_add_left _ _)

theorem readPacked_of_numbers (each : List.Forall₂ IsNumber values pieces)
    (enough : pieces.flatten.length < fuel) (numbers : List Nat) :
    readPacked fuel pieces.flatten.length numbers (pieces.flatten ++ rest) =
      .ok (numbers.reverse ++ values, rest) := by
  induction each generalizing fuel numbers with
  | nil =>
      cases fuel with
      | zero => simp at enough
      | succ fuel => simp [readPacked]
  | @cons value piece values pieces number _ ih =>
      cases fuel with
      | zero => simp at enough
      | succ fuel =>
          have filled := number.spells.length_pos
          rw [List.flatten_cons, List.length_append] at enough ⊢
          have notDone : ¬piece.length + pieces.flatten.length = 0 := by omega
          have inside : ¬piece.length + pieces.flatten.length < piece.length := by omega
          have first : readNumberFrom 0 0 (piece ++ (pieces.flatten ++ rest)) =
              .ok ((value, piece.length), pieces.flatten ++ rest) :=
            readNumberFrom_eq_ok_iff.mpr ⟨piece, rfl, number, rfl⟩
          rw [readPacked, if_neg notDone, List.append_assoc, first]
          simp only [bind, Except.bind, inside, if_false, Nat.add_sub_cancel_left]
          rw [ih (by omega)]
          simp

theorem numbers_of_readPacked {numbers : List Nat}
    (found : readPacked fuel owed numbers bytes = .ok (all, rest)) :
    ∃ values pieces, List.Forall₂ IsNumber values pieces ∧ all = numbers.reverse ++ values ∧
      pieces.flatten.length = owed ∧ bytes = pieces.flatten ++ rest := by
  induction fuel generalizing owed numbers bytes with
  | zero => cases found
  | succ fuel ih =>
      rw [readPacked] at found
      split at found
      case isTrue done =>
        cases found
        exact ⟨[], [], List.Forall₂.nil, by simp, by simp [done], rfl⟩
      case isFalse =>
        rcases exists_of_bind_eq_ok found with ⟨⟨⟨value, size⟩, behind⟩, read_eq, found⟩
        dsimp only at found
        split at found
        case isTrue => cases found
        case isFalse inside =>
          rcases readNumberFrom_eq_ok_iff.mp read_eq with ⟨piece, rfl, number, rfl⟩
          rcases ih found with ⟨values, pieces, each, rfl, length_eq, rfl⟩
          refine ⟨value :: values, piece :: pieces, List.Forall₂.cons number each, ?_, ?_, ?_⟩
          · simp
          · rw [List.flatten_cons, List.length_append]
            omega
          · simp

theorem readNumbers_eq_ok_iff :
    readNumbers kind bytes = .ok (values, rest) ↔
      ∃ taken, bytes = taken ++ rest ∧ IsNumbers kind values taken := by
  rw [readNumbers]
  split
  case isTrue chunk =>
    subst chunk
    simp only [bind_eq_ok_iff]
    constructor
    · rintro ⟨⟨length, behind⟩, read_eq, ⟨content, after⟩, taken_eq, packed⟩
      rcases readNumber_eq_ok_iff.mp read_eq with ⟨header, rfl, number⟩
      rcases numbers_of_readPacked packed with ⟨found, pieces, each, rfl, rfl, behind_eq⟩
      dsimp only at behind_eq
      subst behind_eq
      exact ⟨header ++ pieces.flatten, by simp,
        IsNumbers.packed each ⟨header, number, rfl⟩⟩
    · rintro ⟨taken, rfl, numbers⟩
      cases numbers with
      | @packed _ pieces _ each chunk =>
          rcases chunk with ⟨header, number, rfl⟩
          refine ⟨(pieces.flatten.length, pieces.flatten ++ rest), ?_, (pieces.flatten, rest), ?_, ?_⟩
          · exact readNumber_eq_ok_iff.mpr ⟨header, by simp, number⟩
          · exact take_eq_ok_iff.mpr ⟨rfl, rfl⟩
          · exact readPacked_of_numbers each (Nat.lt_succ_self _) []
  case isFalse notChunk =>
    simp only [bind_eq_ok_iff]
    constructor
    · rintro ⟨_, required, ⟨value, behind⟩, read_eq, found⟩
      cases found
      cases require_eq_ok_iff.mp required
      rcases readNumber_eq_ok_iff.mp read_eq with ⟨taken, bytes_eq, number⟩
      exact ⟨taken, bytes_eq, IsNumbers.single number⟩
    · rintro ⟨taken, bytes_eq, numbers⟩
      cases numbers with
      | @single value _ number =>
          exact ⟨(), rfl, (value, rest), readNumber_eq_ok_iff.mpr ⟨taken, bytes_eq, number⟩, rfl⟩
      | packed => exact absurd rfl notChunk

end Repeated

end LinkGuard.Wire
