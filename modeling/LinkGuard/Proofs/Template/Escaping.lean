import LinkGuard.Template.Render

/-!
# What a page displays

In a page, brackets, quotes and ampersands are markup. A text shows such a character by a reference:
an ampersand, a name or a number, and a semicolon. Reading the references back gives the value that
the text displays; a text with markup in it displays none. An escaped value is text that displays
the value, and so escaping loses nothing and adds no markup.
-/

namespace LinkGuard.Template

/-- The value of a hexadecimal digit, in either case. -/
def hexValue? (digit : Char) : Option Nat :=
  let code := digit.toNat
  if 0x30 ≤ code ∧ code ≤ 0x39 then some (code - 0x30)
  else if 0x41 ≤ code ∧ code ≤ 0x46 then some (code - 0x37)
  else if 0x61 ≤ code ∧ code ≤ 0x66 then some (code - 0x57)
  else none

/-- The character that a reference stands for, by its name or by its number. -/
def reference? : List Char → Option Char
  | ['a', 'm', 'p'] => some '&'
  | ['l', 't'] => some '<'
  | ['g', 't'] => some '>'
  | ['q', 'u', 'o', 't'] => some '\x22'
  | '#' :: 'x' :: digits => do
    let number ← digits.foldlM (fun number digit => (hexValue? digit).map (16 * number + ·)) 0
    if digits ≠ [] ∧ number.isValidChar then some (Char.ofNat number) else none
  | _ => none

/-- What the rest of a text displays: outside of references, or within one behind the given part of
its name. -/
def displayFrom? : Option (List Char) → List Char → Option (List Char)
  | none, [] => some []
  | none, character :: rest =>
    if character ∈ ['<', '>', '\x22'] then none
    else if character = '&' then displayFrom? (some []) rest
    else (displayFrom? none rest).map (character :: ·)
  | some _, [] => none
  | some name, character :: rest =>
    if character ∈ ['<', '>', '\x22'] then none
    else if character = ';' then
      (reference? name).bind fun meant => (displayFrom? none rest).map (meant :: ·)
    else displayFrom? (some (name ++ [character])) rest

/-- The value that a text of a page displays. A bracket, a quote and an ampersand in front of no
reference are markup, and a text with markup displays no value. -/
def displayed? (text : List Char) : Option (List Char) := displayFrom? none text

section Displayed

variable {character meant : Char} {rest text : List Char}

/-- A text that displays a value has no brackets and no quotes. -/
theorem not_mem_of_displayFrom? {mark : Char} (isMark : mark ∈ ['<', '>', '\x22'])
    {within : Option (List Char)} {value : List Char}
    (shown : displayFrom? within text = some value) : mark ∉ text := by
  have cons {character : Char} {rest : List Char} (plain : character ∉ ['<', '>', '\x22'])
      (others : mark ∉ rest) : mark ∉ character :: rest :=
    List.not_mem_cons_of_ne_of_not_mem (fun same => plain (same ▸ isMark)) others
  fun_induction displayFrom? within text generalizing value
  case case1 => exact List.not_mem_nil
  case case3 rest plain ih => exact cons plain (ih shown)
  case case4 plain _ ih =>
    rcases Option.map_eq_some_iff.mp shown with ⟨others, shown, _⟩
    exact cons plain (ih shown)
  case case7 name rest plain ih =>
    rcases Option.bind_eq_some_iff.mp shown with ⟨meant, _, shown⟩
    rcases Option.map_eq_some_iff.mp shown with ⟨others, shown, _⟩
    exact cons plain (ih shown)
  case case8 plain _ ih => exact cons plain (ih shown)
  all_goals cases shown

theorem not_mem_of_displayed? {mark : Char} {value : List Char}
    (isMark : mark ∈ ['<', '>', '\x22']) (shown : displayed? text = some value) : mark ∉ text :=
  not_mem_of_displayFrom? isMark shown

theorem displayFrom?_plain (plain : character ∉ ['&', '<', '>', '\x22']) :
    displayFrom? none (character :: rest) = (displayFrom? none rest).map (character :: ·) := by
  simp only [List.mem_cons, List.not_mem_nil, or_false, not_or] at plain
  simp [displayFrom?, plain]

theorem displayFrom?_name {collected left : List Char}
    (found : reference? (collected ++ left) = some meant)
    (plain : ∀ character ∈ left, character ∉ [';', '<', '>', '\x22']) :
    displayFrom? (some collected) (left ++ ';' :: rest) =
      (displayFrom? none rest).map (meant :: ·) := by
  induction left generalizing collected with
  | nil =>
      rw [List.append_nil] at found
      simp [displayFrom?, found]
  | cons character left ih =>
      have own := plain character List.mem_cons_self
      simp only [List.mem_cons, List.not_mem_nil, or_false, not_or] at own
      have found_cons : reference? (collected ++ [character] ++ left) = some meant := by
        simpa using found
      have others := ih found_cons fun other mem => plain other (List.mem_cons_of_mem _ mem)
      simpa [displayFrom?, own] using others

/-- A reference displays the character that it stands for. -/
theorem displayFrom?_reference (name : List Char) (found : reference? name = some meant)
    (plain : ∀ character ∈ name, character ∉ [';', '<', '>', '\x22']) :
    displayFrom? none ('&' :: (name ++ ';' :: rest)) =
      (displayFrom? none rest).map (meant :: ·) := by
  have named : reference? ([] ++ name) = some meant := found
  simpa [displayFrom?] using displayFrom?_name named plain

/-- The written form of a character displays the character. -/
theorem displayFrom?_escapeChar (character : Char) :
    displayFrom? none (escapeChar character ++ rest) =
      (displayFrom? none rest).map (character :: ·) := by
  unfold escapeChar
  split
  · exact displayFrom?_reference ['a', 'm', 'p'] (by decide) (by simp)
  · exact displayFrom?_reference ['l', 't'] (by decide) (by simp)
  · exact displayFrom?_reference ['g', 't'] (by decide) (by simp)
  · exact displayFrom?_reference ['q', 'u', 'o', 't'] (by decide) (by simp)
  · exact displayFrom?_reference ['#', 'x', '2', '7'] (by decide) (by simp)
  · exact displayFrom?_reference ['#', 'x', '6', '0'] (by decide) (by simp)
  · exact displayFrom?_reference ['#', 'x', '3', 'D'] (by decide) (by simp)
  · exact displayFrom?_plain (by grind)

/-- An escaped text displays the text. -/
theorem displayed?_escape (text : String) : displayed? (escape text).toList = some text.toList := by
  rw [displayed?, escape, String.toList_ofList]
  induction text.toList with
  | nil => rfl
  | cons character characters ih => rw [List.flatMap_cons, displayFrom?_escapeChar, ih]; rfl

end Displayed

end LinkGuard.Template
