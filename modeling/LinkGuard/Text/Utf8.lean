/-!
# UTF-8

Bodies, templates and percent-decoded parameters are bytes until they are shown to be text. The
reader here is a small machine that sees one byte at a time: between characters it is idle, and
inside one it knows which range the next byte has to lie in. Narrowing that range after `E0`,
`ED`, `F0` and `F4` rules out overlong forms, surrogates and numbers past the last code point.

A byte outside the range ends the character as *broken* and is then read afresh, so each broken
stretch is a maximal beginning of some character. Replacing every broken stretch by one U+FFFD
gives the lossy reading; refusing the text when there is one gives the strict reading.
-/

namespace LinkGuard.Utf8

/-- The bytes of one character. -/
def encodeChar (character : Char) : List UInt8 :=
  let code := character.toNat
  if code < 0x80 then [code.toUInt8]
  else if code < 0x800 then [(0xC0 + code / 64).toUInt8, (0x80 + code % 64).toUInt8]
  else if code < 0x10000 then
    [(0xE0 + code / 4096).toUInt8, (0x80 + code / 64 % 64).toUInt8, (0x80 + code % 64).toUInt8]
  else
    [(0xF0 + code / 262144).toUInt8, (0x80 + code / 4096 % 64).toUInt8,
      (0x80 + code / 64 % 64).toUInt8, (0x80 + code % 64).toUInt8]

/-- The bytes of a run of characters. -/
def encodeChars (characters : List Char) : List UInt8 :=
  characters.flatMap encodeChar

/-- The bytes of a text. -/
def encode (text : String) : List UInt8 :=
  encodeChars text.toList

/-- A character that has begun: its bits so far, the bytes still owed, and the range in which the
next byte has to lie. -/
structure Pending where
  bits : Nat
  owed : Nat
  low : Nat
  high : Nat

/-- What a byte between characters begins. -/
inductive Start where
  | whole (character : Char)
  | opens (pending : Pending)
  | broken

/-- Reads a byte between characters. -/
def start (byte : UInt8) : Start :=
  let code := byte.toNat
  if code < 0x80 then .whole (Char.ofNat code)
  else if code < 0xC2 then .broken
  else if code < 0xE0 then .opens ⟨code - 0xC0, 1, 0x80, 0xBF⟩
  else if code = 0xE0 then .opens ⟨0, 2, 0xA0, 0xBF⟩
  else if code = 0xED then .opens ⟨13, 2, 0x80, 0x9F⟩
  else if code < 0xF0 then .opens ⟨code - 0xE0, 2, 0x80, 0xBF⟩
  else if code = 0xF0 then .opens ⟨0, 3, 0x90, 0xBF⟩
  else if code < 0xF4 then .opens ⟨code - 0xF0, 3, 0x80, 0xBF⟩
  else if code = 0xF4 then .opens ⟨4, 3, 0x80, 0x8F⟩
  else .broken

/-- One byte between characters: the pieces so far and the character now pending. -/
def stepIdle (pieces : List (Option Char)) (byte : UInt8) :
    List (Option Char) × Option Pending :=
  match start byte with
  | .whole character => (some character :: pieces, none)
  | .opens pending => (pieces, some pending)
  | .broken => (none :: pieces, none)

/-- One byte of the machine. Pieces are collected last first; `none` stands for a broken stretch. -/
def step (pieces : List (Option Char)) (pending : Option Pending) (byte : UInt8) :
    List (Option Char) × Option Pending :=
  match pending with
  | none => stepIdle pieces byte
  | some begun =>
    if begun.low ≤ byte.toNat ∧ byte.toNat ≤ begun.high then
      let bits := begun.bits * 64 + byte.toNat % 64
      if begun.owed ≤ 1 then (some (Char.ofNat bits) :: pieces, none)
      else (pieces, some ⟨bits, begun.owed - 1, 0x80, 0xBF⟩)
    else stepIdle (none :: pieces) byte

/-- Runs the machine over the bytes; a character still pending at the end is broken. -/
def scan (pieces : List (Option Char)) (pending : Option Pending) :
    List UInt8 → List (Option Char)
  | [] => (if pending.isSome then none :: pieces else pieces).reverse
  | byte :: rest =>
    let (pieces, pending) := step pieces pending byte
    scan pieces pending rest

/-- The characters and broken stretches of a byte string, in order. -/
def pieces (bytes : List UInt8) : List (Option Char) :=
  scan [] none bytes

/-- The strict reading: no text when any stretch is broken. -/
def decode? (bytes : List UInt8) : Option String :=
  let found := pieces bytes
  if found.all Option.isSome then some (String.ofList (found.filterMap id)) else none

/-- The lossy reading: each broken stretch becomes one U+FFFD. -/
def decodeLossy (bytes : List UInt8) : String :=
  String.ofList ((pieces bytes).map fun piece => piece.getD '\uFFFD')

/-- How many bytes come before the first broken stretch. -/
def validLength (bytes : List UInt8) : Nat :=
  (encodeChars (((pieces bytes).takeWhile Option.isSome).filterMap id)).length

end LinkGuard.Utf8
