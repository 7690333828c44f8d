import LinkGuard.Proofs.Text.Trim

/-!
# Pieces between separators

A piece of a text holds no separator and reaches from a separator, or the beginning, to the next
separator, or the end. Splitting finds the pieces and nothing else. Blanks around the whole text
are blanks around its first and its last piece, so they do not matter when each piece is trimmed.
-/

namespace LinkGuard.Text

variable {separator : Char} {piece text : List Char}

/-- The text has the piece between two separators, or between one and an end. -/
def HasPiece (separator : Char) (piece text : List Char) : Prop :=
  separator ∉ piece ∧ ∃ before after, text = before ++ piece ++ after ∧
    (before = [] ∨ ∃ start, before = start ++ [separator]) ∧
    (after = [] ∨ ∃ rest, after = separator :: rest)

theorem splitChars_eq_splitOn (separator : Char) (text : List Char) :
    splitChars separator text = text.splitOn separator := by
  induction text with
  | nil => rfl
  | cons first rest ih =>
      rw [splitChars, List.splitOn_cons_eq_if_modifyHead, ih]
      by_cases separates : first = separator
      · simp only [separates, if_true, beq_self_eq_true]
      · simp only [separates, if_false, beq_iff_eq]
        rcases List.exists_cons_of_ne_nil (List.splitOn_ne_nil separator rest) with
          ⟨head, tail, split⟩
        rw [split, List.modifyHead_cons]

/-- A piece that splitting finds stands in the text. The first one ends at the first separator, the
others are pieces of what follows it. -/
theorem hasPiece_of_mem (mem : piece ∈ text.splitOn separator) :
    HasPiece separator piece text := by
  induction length_eq : text.length using Nat.strongRecOn generalizing text with
  | ind length ih =>
      by_cases separated : separator ∈ text
      · rcases List.eq_append_cons_of_mem separated with ⟨first, rest, rfl, unbroken⟩
        rw [List.splitOn_append_cons_self_of_not_mem unbroken, List.mem_cons] at mem
        rcases mem with rfl | mem
        · exact ⟨unbroken, [], separator :: rest, rfl, .inl rfl, .inr ⟨rest, rfl⟩⟩
        · have shorter : rest.length < length := by
            rw [List.length_append, List.length_cons] at length_eq
            omega
          rcases ih rest.length shorter mem rfl with ⟨whole, before, after, rfl, left, right⟩
          refine ⟨whole, first ++ separator :: before, after, by simp, .inr ?_, right⟩
          rcases left with rfl | ⟨start, rfl⟩
          · exact ⟨first, rfl⟩
          · exact ⟨first ++ separator :: start, by simp⟩
      · rw [List.splitOn_eq_singleton separated, List.mem_singleton] at mem
        subst mem
        exact ⟨separated, [], [], by simp, .inl rfl, .inl rfl⟩

theorem mem_of_mem_piece {character : Char} (piece_mem : piece ∈ text.splitOn separator)
    (mem : character ∈ piece) : character ∈ text := by
  rcases (hasPiece_of_mem piece_mem).2 with ⟨before, after, rfl, _⟩
  exact List.mem_append_left after (List.mem_append_right before mem)

theorem mem_of_hasPiece (has : HasPiece separator piece text) :
    piece ∈ text.splitOn separator := by
  rcases has with ⟨whole, before, after, rfl, left, right⟩
  have ends : piece ∈ (piece ++ after).splitOn separator := by
    rcases right with rfl | ⟨rest, rfl⟩
    · rw [List.append_nil, List.splitOn_eq_singleton whole]
      exact List.mem_singleton_self piece
    · rw [List.splitOn_append_cons_self_of_not_mem whole]
      exact List.mem_cons_self
  rcases left with rfl | ⟨start, rfl⟩
  · exact ends
  · rw [List.append_assoc, List.append_assoc, List.singleton_append,
      List.splitOn_append_cons_self]
    exact List.mem_append_right _ ends

theorem mem_splitChars_iff : piece ∈ splitChars separator text ↔ HasPiece separator piece text := by
  rw [splitChars_eq_splitOn]
  exact ⟨hasPiece_of_mem, mem_of_hasPiece⟩

/-- A separator in front of a text adds an empty piece and no other. -/
theorem hasPiece_cons (filled : piece ≠ []) :
    HasPiece separator piece (separator :: text) ↔ HasPiece separator piece text := by
  rw [← mem_splitChars_iff, ← mem_splitChars_iff, splitChars, if_pos rfl, List.mem_cons]
  exact or_iff_right filled

/-- The pieces of a text, each without the blanks around it. -/
def trimmedPieces (separator : Char) (text : List Char) : List (List Char) :=
  (text.splitOn separator).map trimBlanks

section Trimmed

variable {before behind : List Char}

theorem trimmedPieces_of_not_mem (whole : separator ∉ text) :
    trimmedPieces separator text = [trimBlanks text] := by
  rw [trimmedPieces, List.splitOn_eq_singleton whole, List.map_singleton]

theorem trimmedPieces_append_cons (whole : separator ∉ piece) (text : List Char) :
    trimmedPieces separator (piece ++ separator :: text) =
      trimBlanks piece :: trimmedPieces separator text := by
  rw [trimmedPieces, List.splitOn_append_cons_self_of_not_mem whole, List.map_cons, trimmedPieces]

theorem not_mem_of_blank (visible : isBlank separator = false)
    (blank : ∀ character ∈ before, isBlank character = true) : separator ∉ before := by
  intro mem
  rw [blank separator mem] at visible
  cases visible

theorem trimmedPieces_append_left (visible : isBlank separator = false)
    (blank : ∀ character ∈ before, isBlank character = true) :
    trimmedPieces separator (before ++ text) = trimmedPieces separator text := by
  have unbroken := not_mem_of_blank visible blank
  by_cases separated : separator ∈ text
  · rcases List.eq_append_cons_of_mem separated with ⟨first, rest, rfl, whole⟩
    rw [← List.append_assoc, trimmedPieces_append_cons (by simp [unbroken, whole]),
      trimmedPieces_append_cons whole, trimBlanks_append_left blank]
  · rw [trimmedPieces_of_not_mem (by simp [unbroken, separated]),
      trimmedPieces_of_not_mem separated, trimBlanks_append_left blank]

theorem trimmedPieces_append_right (visible : isBlank separator = false)
    (blank : ∀ character ∈ behind, isBlank character = true) :
    trimmedPieces separator (text ++ behind) = trimmedPieces separator text := by
  have unbroken := not_mem_of_blank visible blank
  induction length_eq : text.length using Nat.strongRecOn generalizing text with
  | ind length ih =>
      by_cases separated : separator ∈ text
      · rcases List.eq_append_cons_of_mem separated with ⟨first, rest, rfl, whole⟩
        have shorter : rest.length < length := by
          rw [List.length_append, List.length_cons] at length_eq
          omega
        rw [List.append_assoc, List.cons_append, trimmedPieces_append_cons whole,
          trimmedPieces_append_cons whole, ih rest.length shorter rfl]
      · rw [trimmedPieces_of_not_mem (by simp [unbroken, separated]),
          trimmedPieces_of_not_mem separated, trimBlanks_append_right blank]

theorem trimmedPieces_trimBlanks (visible : isBlank separator = false) (text : List Char) :
    trimmedPieces separator (trimBlanks text) = trimmedPieces separator text := by
  rcases isPadded_trimBlanks text with ⟨before, behind, blank, blank', text_eq⟩
  have padded_eq : trimmedPieces separator text =
      trimmedPieces separator (before ++ trimBlanks text ++ behind) := congrArg _ text_eq
  rw [padded_eq, trimmedPieces_append_right visible blank',
    trimmedPieces_append_left visible blank]

end Trimmed

end LinkGuard.Text
