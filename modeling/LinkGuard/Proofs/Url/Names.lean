import LinkGuard.Proofs.Text.Ascii
import LinkGuard.Proofs.Text.Form
import LinkGuard.Proofs.Text.Pieces
import LinkGuard.Proofs.Url.Host

/-!
# Host names

A host name in small ASCII letters is its own canonical form: there is nothing to decode, to map or
to lower in it. Since it begins with a letter it is no address either.
-/

namespace LinkGuard

namespace Percent

theorem decode_plain {bytes : List UInt8} (plain : ∀ byte ∈ bytes, byte ≠ 0x25) :
    decode bytes = bytes := by
  have onto (decoded : List UInt8) : decodeOnto decoded bytes = decoded.reverse ++ bytes := by
    induction bytes generalizing decoded with
    | nil => rw [decodeOnto, List.append_nil]
    | cons first rest ih =>
        rw [decodeOnto_cons (plain first List.mem_cons_self),
          ih fun byte mem => plain byte (List.mem_cons_of_mem _ mem), List.reverse_cons,
          List.append_assoc, List.singleton_append]
  rw [decode, onto, List.reverse_nil, List.nil_append]

/-- A text without percent signs is its own decoding. -/
theorem decode?_decode_plain {text : List Char} (plain : '%' ∉ text) :
    Utf8.decode? (decode (Utf8.encodeChars text)) = some (String.ofList text) := by
  have bytes_plain : ∀ byte ∈ Utf8.encodeChars text, byte ≠ 0x25 := by
    rintro _ mem rfl
    rcases List.mem_flatMap.mp mem with ⟨character, character_mem, byte_mem⟩
    rcases Utf8.mem_encodeChar byte_mem with ⟨ascii, byte_eq⟩ | high
    · have code_eq : character.toNat = 0x25 := by
        have toNat_eq := congrArg UInt8.toNat byte_eq
        rw [Utf8.toNat_toUInt8 (by omega)] at toNat_eq
        exact toNat_eq.symm
      have percent : character = '%' := by
        rw [← Char.ofNat_toNat character, code_eq]
      exact plain (percent ▸ character_mem)
    · exact absurd high (by decide)
  rw [decode_plain bytes_plain]
  simpa [Utf8.encode] using Utf8.decode?_encode (String.ofList text)

end Percent

namespace Host

variable {name label : List Char} {labels : List (List Char)} {character : Char}

/-- A small ASCII letter, a digit, a point or a hyphen. -/
def isNameChar (character : Char) : Bool :=
  character.isLower || character.isDigit || character == '.' || character == '-'

/-- A name that is valid as the host of a link, in small ASCII letters and without labels in
Punycode. It begins with a letter. Where hyphens stand does not matter, and names that end in a
number are not valid as hosts. -/
structure IsHostName (name : List Char) : Prop where
  characters : ∀ character ∈ name, isNameChar character = true
  letter : ∃ first rest, name = first :: rest ∧ first.isLower = true
  unmarked : ∀ label ∈ name.splitOn '.', ¬Domain.marker <+: label
  valid : ∃ host, parse name = .ok host

theorem toNat_lt_of_isNameChar (isName : isNameChar character = true) :
    character.toNat < 128 := by
  simp only [isNameChar, Bool.or_eq_true, beq_iff_eq] at isName
  rcases isName with ((lower | digit) | rfl) | rfl
  · exact Text.toNat_lt_of_isAlphanum (Text.isAlphanum_of_isLower lower)
  · exact Text.toNat_lt_of_isAlphanum (Text.isAlphanum_of_isDigit digit)
  · decide
  · decide

/-- What a domain name makes of such a character: nothing else. -/
theorem isNameChar_spec (isName : isNameChar character = true) :
    character.toLower = character ∧ Domain.isAscii character = true ∧
      Domain.isForbidden character = false := by
  have ascii := toNat_lt_of_isNameChar isName
  revert isName
  exact Text.of_ascii ascii (by decide)

theorem map_toLower_eq (characters : ∀ character ∈ name, isNameChar character = true) :
    name.map Char.toLower = name := by
  rw [List.map_congr_left fun character mem => (isNameChar_spec (characters character mem)).1,
    List.map_id']

theorem isMarked_iff (characters : ∀ character ∈ label, isNameChar character = true) :
    Domain.isMarked label = true ↔ Domain.marker <+: label := by
  have taken : ∀ character ∈ label.take 4, isNameChar character = true := fun character mem =>
    characters character (List.mem_of_mem_take mem)
  have length_eq : Domain.marker.length = 4 := rfl
  rw [Domain.isMarked, map_toLower_eq taken, beq_iff_eq, List.prefix_iff_eq_take, length_eq,
    eq_comm]

theorem toAscii?_eq (characters : ∀ character ∈ name, isNameChar character = true)
    (unmarked : ∀ label ∈ name.splitOn '.', ¬Domain.marker <+: label) :
    Domain.toAscii? name = some name := by
  have ascii : name.all Domain.isAscii = true :=
    List.all_eq_true.mpr fun character mem => (isNameChar_spec (characters character mem)).2.1
  have allowed : name.any Domain.isForbidden = false :=
    List.any_eq_false.mpr fun character mem => by
      simp [(isNameChar_spec (characters character mem)).2.2]
  have free : (Text.splitChars '.' name).any Domain.isMarked = false := by
    rw [Text.splitChars_eq_splitOn]
    refine List.any_eq_false.mpr fun label mem marked => ?_
    have own : ∀ character ∈ label, isNameChar character = true := fun character character_mem =>
      characters character (Text.mem_of_mem_piece mem character_mem)
    exact unmarked label mem ((isMarked_iff own).mp marked)
  rw [Domain.toAscii?, ascii, free]
  simp only [Bool.not_false, Bool.and_self, if_true, allowed, Bool.false_eq_true, if_false,
    map_toLower_eq characters]

variable {first : Char} {rest : List Char}

theorem part?_of_letter (lower : first.isLower = true) : Address.part? (first :: rest) = none := by
  have letter : Address.digitValue? 10 first = none ∧ first ≠ '0' := by
    have ascii := Text.toNat_lt_of_isAlphanum (Text.isAlphanum_of_isLower lower)
    revert lower
    exact Text.of_ascii ascii (by decide)
  have decimal : Address.part? (first :: rest) = Address.number? 10 (first :: rest) := by
    unfold Address.part?
    split <;> simp_all
  rw [decimal, Address.number?, List.foldlM_cons, letter.1]
  rfl

theorem ipv4?_of_letter (lower : first.isLower = true) :
    Address.ipv4? ((first :: rest) :: labels) = none := by
  have begins : ∃ others, Address.parts ((first :: rest) :: labels) = (first :: rest) :: others := by
    unfold Address.parts
    split
    case h_1 others reversed =>
      have labels_eq := List.reverse_eq_iff.mp reversed
      rw [List.reverse_cons] at labels_eq
      cases others_eq : others.reverse with
      | nil => simp [others_eq] at labels_eq
      | cons other others =>
          rw [others_eq, List.cons_append, List.cons.injEq] at labels_eq
          exact ⟨others, by rw [labels_eq.1]⟩
    case h_2 => exact ⟨labels, rfl⟩
  rcases begins with ⟨others, parts_eq⟩
  rw [Address.ipv4?, parts_eq, List.mapM_cons, part?_of_letter lower]
  rfl

/-- The first label begins with the letter that the name begins with. -/
theorem splitOn_of_letter (rest : List Char) (lower : first.isLower = true) :
    ∃ label labels, (first :: rest).splitOn '.' = (first :: label) :: labels := by
  have other : first ≠ '.' := by
    rintro rfl
    cases lower
  rcases List.exists_cons_of_ne_nil (List.splitOn_ne_nil '.' rest) with ⟨head, tail, split⟩
  rw [List.splitOn_cons_eq_if_modifyHead, if_neg (by simpa using other), split]
  exact ⟨head, tail, rfl⟩

/-- A host name is kept as it is. -/
theorem parse_of_isHostName (isName : IsHostName name) : parse name = .ok (String.ofList name) := by
  rcases isName with ⟨characters, ⟨first, rest, rfl, lower⟩, unmarked, host, parsed⟩
  have unbracketed : bracketed? (first :: rest) = none := by
    unfold bracketed?
    split
    case h_1 name_eq =>
      cases name_eq
      cases lower
    case h_2 => rfl
  have plain : '%' ∉ first :: rest := fun mem =>
    absurd (isNameChar_spec (characters '%' mem)).2.2 (by decide)
  rcases splitOn_of_letter rest lower with ⟨label, labels, labels_eq⟩
  have noAddress : Address.ipv4? ((first :: rest).splitOn '.') = none := by
    rw [labels_eq]
    exact ipv4?_of_letter lower
  rw [parse, unbracketed] at parsed ⊢
  simp only [Percent.decode?_decode_plain plain, String.toList_ofList, toAscii?_eq characters unmarked,
    Text.splitChars_eq_splitOn, noAddress] at parsed ⊢
  split at parsed
  case isTrue => cases parsed
  case isFalse notNumber => rw [if_neg notNumber]

end Host

end LinkGuard
