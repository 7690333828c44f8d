import LinkGuard.Json.Problem

/-!
# Reading JSON byte by byte

A reader is a function from a cursor to a value and the cursor behind it, or to an error. The
cursor knows the bytes still to read and the place of the last byte it passed. Some problems are
blamed on the bytes passed so far, others on the byte just ahead; `fail` and `failAhead` keep the
two apart.
-/

namespace LinkGuard.Json

/-- The bytes still to read and the place of the last byte passed. -/
structure Cursor where
  rest : List UInt8
  line : Nat
  column : Nat

namespace Cursor

/-- The cursor before the first byte. -/
def start (bytes : List UInt8) : Cursor := ⟨bytes, 1, 0⟩

/-- The cursor behind the next byte; at the end it stays. -/
def advance (cursor : Cursor) : Cursor :=
  match cursor.rest with
  | [] => cursor
  | byte :: rest =>
    if byte = 0x0A then ⟨rest, cursor.line + 1, 0⟩ else ⟨rest, cursor.line, cursor.column + 1⟩

/-- A problem with the bytes passed so far. -/
def error (cursor : Cursor) (problem : Problem) : Error :=
  ⟨problem, cursor.line, cursor.column⟩

/-- A blank of the format: space, line feed, carriage return or tab. -/
def isBlank (byte : UInt8) : Bool :=
  byte == 0x20 || byte == 0x0A || byte == 0x0D || byte == 0x09

/-- Passes blanks. -/
def skipBlanks (cursor : Cursor) : Cursor :=
  go cursor.rest cursor.line cursor.column
where
  /-- The cursor behind the blanks at the front of the bytes. -/
  go (bytes : List UInt8) (line column : Nat) : Cursor :=
    match bytes with
    | [] => ⟨[], line, column⟩
    | byte :: rest =>
      if byte = 0x0A then go rest (line + 1) 0
      else if isBlank byte then go rest line (column + 1)
      else ⟨byte :: rest, line, column⟩

end Cursor

/-- A reader of values. -/
abbrev Reader := StateT Cursor (Except Error)

namespace Reader

variable {α : Type}

/-- Stops with a problem of the bytes passed so far. -/
def fail (problem : Problem) : Reader α :=
  fun cursor => .error (cursor.error problem)

/-- Stops with a problem of the byte ahead. -/
def failAhead (problem : Problem) : Reader α :=
  fun cursor => .error (cursor.advance.error problem)

/-- The byte ahead, if there is one. -/
def peek : Reader (Option UInt8) :=
  fun cursor => .ok (cursor.rest.head?, cursor)

/-- Passes one byte. -/
def advance : Reader Unit :=
  fun cursor => .ok ((), cursor.advance)

/-- Passes one byte and gives it. -/
def next : Reader (Option UInt8) :=
  fun cursor => .ok (cursor.rest.head?, cursor.advance)

/-- Passes blanks and gives the byte ahead. -/
def peekToken : Reader (Option UInt8) :=
  fun cursor => .ok (cursor.skipBlanks.rest.head?, cursor.skipBlanks)

/-- Passes the rest of a word whose first letter is behind. -/
def word : List UInt8 → Reader Unit
  | [] => pure ()
  | letter :: letters => do
    match ← next with
    | none => fail .endInValue
    | some byte => if byte = letter then word letters else fail .expectedWord

/-- How many bytes are still to read. -/
def remaining : Reader Nat :=
  fun cursor => .ok (cursor.rest.length, cursor)

end Reader

end LinkGuard.Json
