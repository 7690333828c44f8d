/-!
# Punycode

A label with characters beyond ASCII is written with letters, digits and hyphens (RFC 3492). Its
ASCII characters come first; behind the last hyphen, digits in base 36 say which character is
inserted where. Positions and characters are counted through together as one number: all positions
of one character come before any position of the next, so each insertion is the distance from the
one before. Distances have variable length, and the thresholds between their digits follow a bias
that adapts to the distances seen so far.
-/

namespace LinkGuard.Punycode

/-- The digit of a value below 36: letters first. -/
def digit (value : Nat) : Char :=
  Char.ofNat (if value < 26 then 0x61 + value else 0x30 + (value - 26))

/-- The value of a digit. -/
def digitValue? (character : Char) : Option Nat :=
  let code := character.toNat
  if 0x61 ≤ code ∧ code ≤ 0x7A then some (code - 0x61)
  else if 0x41 ≤ code ∧ code ≤ 0x5A then some (code - 0x41)
  else if 0x30 ≤ code ∧ code ≤ 0x39 then some (code - 0x30 + 26)
  else none

/-- The threshold of the digit at a position, counted in steps of 36. -/
def threshold (position bias : Nat) : Nat :=
  max 1 (min 26 (position - bias))

theorem threshold_bounds (position bias : Nat) :
    1 ≤ threshold position bias ∧ threshold position bias ≤ 26 := by
  unfold threshold
  omega

/-- Divides a distance down to the range of one digit, counting the divisions in steps of 36. -/
def reduce (distance steps : Nat) : Nat × Nat :=
  if 455 < distance then reduce (distance / 35) (steps + 36) else (distance, steps)
  termination_by distance
  decreasing_by omega

/-- The bias after a distance, with `count` characters in place. -/
def adapt (distance count : Nat) (first : Bool) : Nat :=
  let damped := if first then distance / 700 else distance / 2
  let (reduced, steps) := reduce (damped + damped / count) 0
  steps + 36 * reduced / (reduced + 38)

/-- The digits of a distance. -/
def distanceDigits (bias position distance : Nat) : List Char :=
  let limit := threshold position bias
  if distance < limit then [digit distance]
  else
    digit (limit + (distance - limit) % (36 - limit)) ::
      distanceDigits bias (position + 36) ((distance - limit) / (36 - limit))
  termination_by distance
  decreasing_by
    have bounds := threshold_bounds position bias
    have := Nat.div_le_self (distance - threshold position bias) (36 - threshold position bias)
    omega

/-- The progress of writing: digits so far, distance since the last insertion, bias, and how many
characters are in place. -/
structure Progress where
  digits : List Char
  distance : Nat
  bias : Nat
  count : Nat

/-- Passes one character of the label while `code` is inserted. -/
def Progress.pass (basic code : Nat) (progress : Progress) (character : Char) : Progress :=
  if character.toNat < code then { progress with distance := progress.distance + 1 }
  else if character.toNat = code then
    ⟨progress.digits ++ distanceDigits progress.bias 36 progress.distance, 0,
      adapt progress.distance (progress.count + 1) (progress.count == basic), progress.count + 1⟩
  else progress

/-- Inserts the characters with each code in turn; `next` is the code after the last one. -/
def Progress.insertAll (label : List Char) (basic next : Nat) (progress : Progress) :
    List Nat → Progress
  | [] => progress
  | code :: codes =>
    let moved :=
      { progress with distance := progress.distance + (code - next) * (progress.count + 1) }
    let passed := label.foldl (Progress.pass basic code) moved
    insertAll label basic (code + 1) { passed with distance := passed.distance + 1 } codes

/-- The codes beyond ASCII in a label, each once, in increasing order. -/
def codesOf (label : List Char) : List Nat :=
  ((label.map Char.toNat).filter (0x80 ≤ ·)).mergeSort.eraseDups

/-- The written form of a label. -/
def encode (label : List Char) : List Char :=
  let basic := label.filter fun character => character.toNat < 0x80
  let progress :=
    Progress.insertAll label basic.length 0x80 ⟨[], 0, 72, basic.length⟩ (codesOf label)
  basic ++ (if basic = [] then [] else ['-']) ++ progress.digits

/-- Reads one distance: the sum so far, the weight of the next digit, and the rest. -/
def readDistance (bias position sum weight : Nat) : List Char → Option (Nat × List Char)
  | [] => none
  | character :: rest =>
    match digitValue? character with
    | none => none
    | some value =>
      let sum := sum + value * weight
      let limit := threshold position bias
      if value < limit then some (sum, rest)
      else readDistance bias (position + 36) sum (weight * (36 - limit)) rest

theorem length_of_readDistance {bias position sum weight : Nat} {digits rest : List Char}
    {found : Nat} (read : readDistance bias position sum weight digits = some (found, rest)) :
    rest.length < digits.length := by
  induction digits generalizing position sum weight with
  | nil => simp [readDistance] at read
  | cons character tail ih =>
    simp only [readDistance] at read
    split at read
    · simp at read
    · split at read
      · simp only [Option.some.injEq, Prod.mk.injEq] at read
        simp [← read.2]
      · have := ih read
        simp only [List.length_cons]
        omega

/-- A number that is a character: not a surrogate and not past the last one. -/
def charOf? (code : Nat) : Option Char :=
  if code < 0xD800 ∨ 0xE000 ≤ code ∧ code < 0x110000 then some (Char.ofNat code) else none

/-- Inserts characters into a label until the digits end. -/
def insertFrom (label : List Char) (code position bias : Nat) (first : Bool)
    (digits : List Char) : Option (List Char) :=
  if digits = [] then some label
  else
    match read : readDistance bias 36 0 1 digits with
    | none => none
    | some (distance, rest) =>
      have := length_of_readDistance read
      let count := label.length + 1
      let place := position + distance
      let code := code + place / count
      match charOf? code with
      | none => none
      | some character =>
        insertFrom (label.take (place % count) ++ character :: label.drop (place % count)) code
          (place % count + 1) (adapt distance count first) false rest
  termination_by digits.length

/-- Reads a written label. -/
def decode (written : List Char) : Option (List Char) :=
  let behind := (written.reverse.takeWhile (· ≠ '-')).reverse
  let before := written.take (written.length - behind.length)
  insertFrom (before.take (before.length - 1)) 0x80 0 72 true behind

end LinkGuard.Punycode
