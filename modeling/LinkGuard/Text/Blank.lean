/-!
# Blank characters

Names, durations and format selectors arrive as free text typed by people, so blanks around them
carry no meaning. Which characters count as blank follows the White_Space property of Unicode,
not ASCII alone: a no-break space pasted from a document is trimmed like any other.
-/

namespace LinkGuard.Text

/-- A character with the Unicode property White_Space. -/
def isBlank (character : Char) : Bool :=
  let code := character.toNat
  (9 ≤ code && code ≤ 13) || code == 0x20 || code == 0x85 || code == 0xA0 || code == 0x1680 ||
    (0x2000 ≤ code && code ≤ 0x200A) || code == 0x2028 || code == 0x2029 || code == 0x202F ||
    code == 0x205F || code == 0x3000

/-- Drops the longest run of blanks at the end. -/
def dropBlanksEnd (characters : List Char) : List Char :=
  (characters.reverse.dropWhile isBlank).reverse

/-- The characters without the blanks before and after them. -/
def trimBlanks (characters : List Char) : List Char :=
  dropBlanksEnd (characters.dropWhile isBlank)

/-- The text without the blanks before and after it. -/
def trim (text : String) : String :=
  String.ofList (trimBlanks text.toList)

/-- Every blank of core's ASCII class is a blank here. -/
theorem isBlank_of_isWhitespace {character : Char} (ascii : character.isWhitespace = true) :
    isBlank character = true := by
  simp only [Char.isWhitespace, Bool.or_eq_true, decide_eq_true_eq] at ascii
  rcases ascii with ((ascii | ascii) | ascii) | ascii <;> subst ascii <;> decide

end LinkGuard.Text
