import LinkGuard.Text.Blank
import LinkGuard.Text.Letters
import Mathlib.Data.List.TakeWhile

/-!
# Trimmed texts

Trimming leaves the characters that a text has nothing but blanks around. If these hold no blank
themselves, there is just one way to see the text so, and what trimming leaves is found by it.

Blanks have no letter case, so a text without blanks has none either when it is written in another
case.
-/

namespace LinkGuard.Text

/-- The text is these characters with nothing but blanks around them. -/
def IsPadded (text characters : List Char) : Prop :=
  ∃ before behind : List Char, (∀ character ∈ before, isBlank character = true) ∧
    (∀ character ∈ behind, isBlank character = true) ∧ text = before ++ characters ++ behind

variable {text characters before behind : List Char}

theorem trimBlanks_append_left (blank : ∀ character ∈ before, isBlank character = true) :
    trimBlanks (before ++ characters) = trimBlanks characters := by
  simp only [trimBlanks, List.dropWhile_append_of_pos blank]

theorem trimBlanks_append_right (blank : ∀ character ∈ behind, isBlank character = true) :
    trimBlanks (characters ++ behind) = trimBlanks characters := by
  simp only [trimBlanks, dropBlanksEnd, List.dropWhile_append]
  split
  case isTrue empty =>
    rw [List.dropWhile_eq_nil_iff.mpr blank, List.isEmpty_iff.mp empty]
  case isFalse =>
    rw [List.reverse_append, List.dropWhile_append_of_pos]
    simpa using blank

theorem IsPadded.trimBlanks_eq (padded : IsPadded text characters) :
    trimBlanks text = trimBlanks characters := by
  rcases padded with ⟨before, behind, blank, blank', rfl⟩
  rw [trimBlanks_append_right blank', trimBlanks_append_left blank]

theorem isPadded_trimBlanks (text : List Char) : IsPadded text (trimBlanks text) := by
  refine ⟨text.takeWhile isBlank,
    ((text.dropWhile isBlank).reverse.takeWhile isBlank).reverse, ?_, ?_, ?_⟩
  · intro character mem
    exact List.mem_takeWhile_imp mem
  · intro character mem
    exact List.mem_takeWhile_imp (List.mem_reverse.mp mem)
  · rw [trimBlanks, dropBlanksEnd, List.append_assoc, ← List.reverse_append,
      List.takeWhile_append_dropWhile, List.reverse_reverse, List.takeWhile_append_dropWhile]

theorem solid_of_all (all : characters.all (fun character => !isBlank character) = true) :
    ∀ character ∈ characters, isBlank character = false := by
  simpa using all

/-- Characters without any blank are padded in just one way. -/
theorem isPadded_iff (solid : ∀ character ∈ characters, isBlank character = false) :
    IsPadded text characters ↔ trimBlanks text = characters := by
  have trimmed : trimBlanks characters = characters := by
    have keeps (left : List Char) (solid : ∀ character ∈ left, isBlank character = false) :
        left.dropWhile isBlank = left := by
      rw [List.dropWhile_eq_self_iff]
      intro inside
      simp [solid]
    rw [trimBlanks, dropBlanksEnd, keeps characters solid, keeps characters.reverse,
      List.reverse_reverse]
    simpa using solid
  constructor
  · intro padded
    rw [padded.trimBlanks_eq, trimmed]
  · rintro rfl
    exact isPadded_trimBlanks text

/-- A part in front that no blank ends is the same, trimmed, in the text and in the trimmed text. -/
theorem trimBlanks_takeWhile_trimBlanks {goesOn : Char → Bool}
    (passes : ∀ character, isBlank character = true → goesOn character = true) :
    trimBlanks ((trimBlanks text).takeWhile goesOn) = trimBlanks (text.takeWhile goesOn) := by
  rcases isPadded_trimBlanks text with ⟨before, behind, blank, blank', text_eq⟩
  have cut_eq : text.takeWhile goesOn =
      before ++ (trimBlanks text ++ behind).takeWhile goesOn := by
    rw [← List.takeWhile_append_of_pos fun character mem => passes character (blank character mem),
      ← List.append_assoc, ← text_eq]
  rw [cut_eq, trimBlanks_append_left blank, List.takeWhile_append]
  split
  case isTrue whole =>
    have trimmed_eq : (trimBlanks text).takeWhile goesOn = trimBlanks text :=
      (List.takeWhile_prefix _).eq_of_length whole
    have behind_eq : behind.takeWhile goesOn = behind :=
      List.takeWhile_eq_self_iff.mpr fun character mem => passes character (blank' character mem)
    rw [trimmed_eq, behind_eq, trimBlanks_append_right blank']
  case isFalse => rfl

theorem sameLetters_iff {left right : String} :
    sameLetters left right = true ↔
      left.toList.map Char.toLower = right.toList.map Char.toLower := by
  rw [sameLetters, beq_iff_eq]

theorem toLower_of_isBlank {character : Char} (blank : isBlank character = true) :
    character.toLower = character := by
  apply dif_neg
  rintro ⟨lower, upper⟩
  have least : 65 ≤ character.toNat := UInt32.le_iff_toNat_le.mp lower
  have greatest : character.toNat ≤ 90 := UInt32.le_iff_toNat_le.mp upper
  simp only [isBlank, Bool.or_eq_true, Bool.and_eq_true, decide_eq_true_eq, beq_iff_eq] at blank
  omega

/-- A character without letter case stands in both of two such texts or in neither. -/
theorem mem_of_sameLetters {left right : String} {character : Char}
    (same : sameLetters left right = true) (fixed : character.toLower = character)
    (mem : character ∈ left.toList) : character ∈ right.toList.map Char.toLower := by
  rw [← sameLetters_iff.mp same, ← fixed]
  exact List.mem_map_of_mem mem

theorem solid_of_sameLetters {left right : String} (same : sameLetters left right = true)
    (solid : ∀ character ∈ right.toList.map Char.toLower, isBlank character = false) :
    ∀ character ∈ left.toList, isBlank character = false := by
  intro character mem
  rw [Bool.eq_false_iff]
  intro blank
  have mem_right := mem_of_sameLetters same (toLower_of_isBlank blank) mem
  rw [solid character mem_right] at blank
  cases blank

end LinkGuard.Text
