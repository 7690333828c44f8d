import LinkGuard.Domain.Punycode
import LinkGuard.Unicode.Composition
import LinkGuard.Unicode.Mapping
import LinkGuard.Unicode.Script

/-!
# Domain names in ASCII

Links are compared by the name that is looked up in the end, so a domain name is brought to its
ASCII form: mapped and composed, split into labels, and each label that needs it written in
Punycode. A name that is ASCII throughout and holds no Punycode label only has its capitals made
small. Labels are otherwise free: they may be empty, of any length, and may hold hyphens anywhere.

Refused are characters with a meaning in links, characters the mapping refuses, labels that claim
to be Punycode and are not, labels that begin with a mark, joiners out of place, and labels that
mix directions in a name that has letters written from right to left.
-/

namespace LinkGuard.Domain

/-- An ASCII character that no domain name may hold: controls, the space, and those with a meaning
in links. -/
def isForbidden (character : Char) : Bool :=
  character.toNat ≤ 0x20 || character.toNat == 0x7F ||
    ['%', '#', '/', ':', '<', '>', '?', '@', '[', '\\', ']', '^', '|'].contains character

/-- An ASCII character. -/
def isAscii (character : Char) : Bool :=
  character.toNat < 0x80

/-- How Punycode labels begin. -/
def marker : List Char := ['x', 'n', '-', '-']

/-- A label that claims to be Punycode. -/
def isMarked (label : List Char) : Bool :=
  (label.take 4).map Char.toLower == marker

/-- Letters that join behind a letter that joins onwards, with transparent ones between. -/
def joinsOver (before after : List Char) : Bool :=
  let last := (before.reverse.dropWhile fun character => Unicode.joining character == 4).head?
  let next := (after.dropWhile fun character => Unicode.joining character == 4).head?
  last.any (fun character => Unicode.joining character == 1 || Unicode.joining character == 2) &&
    next.any fun character => Unicode.joining character == 3 || Unicode.joining character == 2

/-- Whether every joiner stands where it is needed; `before` is the part already passed. -/
def joinersFit (before : List Char) : List Char → Bool
  | [] => true
  | character :: rest =>
    let afterVirama :=
      before.getLast?.any fun last => Unicode.Composition.combiningClass last.toNat == 9
    (if character = '\u200D' then afterVirama
      else if character = '\u200C' then afterVirama || joinsOver before rest
      else true) && joinersFit (before ++ [character]) rest

/-- A label that keeps to one direction. -/
def keepsDirection (label : List Char) : Bool :=
  let directions := label.map Unicode.direction
  let last := (directions.reverse.dropWhile (· = .mark)).head?
  match directions.head? with
  | none => true
  | some .left =>
    directions.all (fun direction => [.left, .number, .numberSign, .separator, .numberTerminator,
      .neutral, .invisible, .mark].contains direction) &&
      last.any fun direction => [.left, .number].contains direction
  | some first =>
    (first = .right || first = .arabic) &&
      directions.all (fun direction => [.right, .arabic, .arabicNumber, .number, .numberSign,
        .separator, .numberTerminator, .neutral, .invisible, .mark].contains direction) &&
      (last.any fun direction => [.right, .arabic, .number, .arabicNumber].contains direction) &&
      !(directions.contains .number && directions.contains .arabicNumber)

/-- A label with letters or numbers written from right to left. -/
def turnsDirection (label : List Char) : Bool :=
  label.any fun character => [.right, .arabic, .arabicNumber].contains (Unicode.direction character)

/-- A label and its ASCII form. -/
structure Label where
  text : List Char
  written : List Char

/-- Reads a label that claims to be Punycode: it has to say something that could not be said in
ASCII, and say it in the mapped and composed form. -/
def readMarked? (label : List Char) : Option Label := do
  let tail := label.drop 4
  if 2000 < tail.length then none
  else
    let text ← Punycode.decode tail
    let mapped ← Unicode.Mapping.image text
    if text.all isAscii || Unicode.Composition.normalize mapped != text then none
    else some ⟨text, label⟩

/-- Writes a label that is already mapped and composed. -/
def writeLabel? (label : List Char) : Option Label :=
  if isMarked label then if label.all isAscii then readMarked? label else none
  else if label.all isAscii then some ⟨label, label⟩
  else if 1000 < label.length then none
  else some ⟨label, marker ++ Punycode.encode label⟩

/-- A label that may stand in a name. -/
def Label.fits (label : Label) : Bool :=
  !label.text.head?.any Unicode.isMark && !label.written.any isForbidden &&
    joinersFit [] label.text

/-- The ASCII form of a name that needs the tables. -/
def writeMapped? (name : List Char) : Option (List Char) := do
  let mapped ← Unicode.Mapping.image name
  let labels ← (Text.splitChars '.' (Unicode.Composition.normalize mapped)).mapM writeLabel?
  let turns := labels.any fun label => turnsDirection label.text
  if labels.all (fun label => label.fits && (!turns || keepsDirection label.text)) then
    some ((labels.map Label.written).intersperse ['.']).flatten
  else none

/-- The ASCII form of a name. -/
def toAscii? (name : List Char) : Option (List Char) :=
  if name.all isAscii && !(Text.splitChars '.' name).any isMarked then
    if name.any isForbidden then none else some (name.map Char.toLower)
  else writeMapped? name

end LinkGuard.Domain
