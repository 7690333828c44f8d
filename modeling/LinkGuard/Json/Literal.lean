import LinkGuard.Json.Cursor
import LinkGuard.Text.Utf8

/-!
# Text literals

A literal is read one byte at a time by a small machine. It collects the bytes of the text; escapes
add the UTF-8 form of the character they stand for. A character beyond the basic plane is written
as two escapes, the halves of a surrogate pair, which have to follow each other. Control characters
have to be escaped, and the collected bytes have to be UTF-8 as a whole.
-/

namespace LinkGuard.Json.Literal

/-- The value of a hex digit, in either case. -/
def hexValue? (byte : UInt8) : Option Nat :=
  let code := byte.toNat
  if 0x30 ≤ code ∧ code ≤ 0x39 then some (code - 0x30)
  else if 0x41 ≤ code ∧ code ≤ 0x46 then some (code - 0x37)
  else if 0x61 ≤ code ∧ code ≤ 0x66 then some (code - 0x57)
  else none

/-- Where the machine stands. A pending `lead` is the first half of a surrogate pair; a `value` is
absent once one of the four digits was none. -/
inductive State where
  | plain
  | escape
  | digits (lead : Option Nat) (value : Option Nat) (owed : Nat)
  | pairBackslash (lead : Nat)
  | pairLetter (lead : Nat)

/-- What one byte leads to. -/
inductive Step where
  | go (state : State) (collected : List UInt8)
  | done
  | stop (problem : Problem)

/-- The byte that a short escape stands for. -/
def shortEscape? (byte : UInt8) : Option UInt8 :=
  if byte = 0x22 ∨ byte = 0x5C ∨ byte = 0x2F then some byte
  else if byte = 0x62 then some 0x08
  else if byte = 0x66 then some 0x0C
  else if byte = 0x6E then some 0x0A
  else if byte = 0x72 then some 0x0D
  else if byte = 0x74 then some 0x09
  else none

/-- Four digits are complete: a character, or one half of a pair. -/
def complete (lead : Option Nat) (value : Nat) : Step :=
  let isLead := 0xD800 ≤ value ∧ value < 0xDC00
  let isTrail := 0xDC00 ≤ value ∧ value < 0xE000
  match lead with
  | none =>
    if isTrail then .stop .loneSurrogate
    else if isLead then .go (.pairBackslash value) []
    else .go .plain (Utf8.encodeChar (Char.ofNat value))
  | some lead =>
    if isTrail then
      let code := 0x10000 + (lead - 0xD800) * 1024 + (value - 0xDC00)
      .go .plain (Utf8.encodeChar (Char.ofNat code))
    else .stop .loneSurrogate

/-- One byte of the machine. -/
def step : State → UInt8 → Step
  | .plain, byte =>
    if byte = 0x22 then .done
    else if byte = 0x5C then .go .escape []
    else if byte < 0x20 then .stop .controlCharacter
    else .go .plain [byte]
  | .escape, byte =>
    if byte = 0x75 then .go (.digits none (some 0) 4) []
    else
      match shortEscape? byte with
      | some plain => .go .plain [plain]
      | none => .stop .invalidEscape
  | .digits lead value owed, byte =>
    let value := do
      let high ← value
      let low ← hexValue? byte
      pure (high * 16 + low)
    if owed ≤ 1 then
      match value with
      | some value => complete lead value
      | none => .stop .invalidEscape
    else .go (.digits lead value (owed - 1)) []
  | .pairBackslash lead, byte =>
    if byte = 0x5C then .go (.pairLetter lead) [] else .stop .endInEscape
  | .pairLetter lead, byte =>
    if byte = 0x75 then .go (.digits (some lead) (some 0) 4) [] else .stop .endInEscape

/-- Runs the machine up to the closing quote. Collected bytes are kept last first. -/
def run (state : State) (collected : List UInt8) (bytes : List UInt8) (line column : Nat) :
    Except Error (List UInt8 × Cursor) :=
  match bytes with
  | [] => .error ⟨.endInText, line, column⟩
  | byte :: rest =>
    let line' := if byte = 0x0A then line + 1 else line
    let column' := if byte = 0x0A then 0 else column + 1
    match step state byte with
    | .done => .ok (collected.reverse, ⟨rest, line', column'⟩)
    | .stop problem => .error ⟨problem, line', column'⟩
    | .go state more => run state (more.reverse ++ collected) rest line' column'

/-- Reads a text whose opening quote is behind. Bytes that are not UTF-8 are blamed where the first
broken stretch begins. -/
def read : Reader String := fun cursor =>
  match run .plain [] cursor.rest cursor.line cursor.column with
  | .error error => .error error
  | .ok (bytes, behind) =>
    match Utf8.decode? bytes with
    | some text => .ok (text, behind)
    | none =>
      .error ⟨.invalidCodePoint, cursor.line, cursor.column + Utf8.validLength cursor.rest + 1⟩

/-- Where the passing machine stands. -/
inductive Passing where
  | plain
  | escape
  | digits (valid : Bool) (owed : Nat)

/-- Passes a text nobody asked for. Escapes are checked for their form alone. -/
def pass (state : Passing) (bytes : List UInt8) (line column : Nat) : Except Error Cursor :=
  match bytes with
  | [] => .error ⟨.endInText, line, column⟩
  | byte :: rest =>
    let line' := if byte = 0x0A then line + 1 else line
    let column' := if byte = 0x0A then 0 else column + 1
    match state with
    | .plain =>
      if byte = 0x22 then .ok ⟨rest, line', column'⟩
      else if byte = 0x5C then pass .escape rest line' column'
      else if byte < 0x20 then .error ⟨.controlCharacter, line, column⟩
      else pass .plain rest line' column'
    | .escape =>
      if byte = 0x75 then pass (.digits true 4) rest line' column'
      else if (shortEscape? byte).isSome then pass .plain rest line' column'
      else .error ⟨.invalidEscape, line', column'⟩
    | .digits valid owed =>
      let valid := valid && (hexValue? byte).isSome
      if owed ≤ 1 then
        if valid then pass .plain rest line' column'
        else .error ⟨.invalidEscape, line', column'⟩
      else pass (.digits valid (owed - 1)) rest line' column'

/-- Passes a text whose opening quote is behind. -/
def skip : Reader Unit := fun cursor =>
  (pass .plain cursor.rest cursor.line cursor.column).map fun behind => ((), behind)

end LinkGuard.Json.Literal
