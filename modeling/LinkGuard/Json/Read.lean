import LinkGuard.Json.Skip

/-!
# Typed readers

A reader asks for one kind of value. When something else stands there, that value is read far
enough to name it, and the mismatch is the problem. A whole body is one value, with nothing but
blanks before and after it.
-/

namespace LinkGuard.Json.Read

variable {α : Type}

/-- Names the value ahead as something else than `expected`. -/
def wrongType (byte : UInt8) (expected : String) : Reader α := do
  let found ←
    if byte = 0x6E then Reader.advance; Reader.word [0x75, 0x6C, 0x6C]; pure Found.null
    else if byte = 0x74 then
      Reader.advance; Reader.word [0x72, 0x75, 0x65]; pure (Found.boolean true)
    else if byte = 0x66 then
      Reader.advance; Reader.word [0x61, 0x6C, 0x73, 0x65]; pure (Found.boolean false)
    else if byte = 0x2D then Reader.advance; pure (← Number.read false).found
    else if Number.isDigit byte then pure (← Number.read true).found
    else if byte = 0x22 then Reader.advance; pure (Found.text (← Literal.read))
    else if byte = 0x5B then pure Found.list
    else if byte = 0x7B then pure Found.record
    else Reader.failAhead .expectedValue
  Reader.fail (.wrongType found expected)

/-- The first byte of a value. -/
def valueToken : Reader UInt8 := do
  match ← Reader.peekToken with
  | none => Reader.failAhead .endInValue
  | some byte => pure byte

/-- A text, called `expected` in messages. -/
def textCalled (expected : String) : Reader String := do
  let byte ← valueToken
  if byte = 0x22 then Reader.advance; Literal.read else wrongType byte expected

/-- A text. -/
def text : Reader String := textCalled "a string"

/-- A text that stands for something else. -/
def parsed (expected : String) (parse : String → Except Problem α) : Reader α := do
  match parse (← textCalled expected) with
  | .ok value => pure value
  | .error problem => Reader.fail problem

/-- A whole number of 64 bits. -/
def natural : Reader Nat := do
  let expected := "u64"
  let byte ← valueToken
  let positive := byte ≠ 0x2D
  if positive ∧ !Number.isDigit byte then wrongType byte expected
  else
    if !positive then Reader.advance
    match ← Number.read positive with
    | .natural value => pure value
    | .negative value => Reader.fail (.wrongValue (.integer value) expected)
    | .decimal value => Reader.fail (.wrongType (.decimal value) expected)

/-- Nothing, written `null`. -/
def unit : Reader Unit := do
  let byte ← valueToken
  if byte = 0x6E then Reader.advance; Reader.word [0x75, 0x6C, 0x6C]
  else wrongType byte "unit"

/-- A value or `null`. -/
def optional (read : Reader α) : Reader (Option α) := do
  if (← Reader.peekToken) = some 0x6E then
    Reader.advance; Reader.word [0x75, 0x6C, 0x6C]; pure none
  else pure (some (← read))

/-- One of several named values: its name, or a record whose one member has that name and holds
`null`. -/
def variant (known : List String) (ofName? : String → Option α) : Reader α := do
  let name : Reader α := parsed "variant identifier" fun name =>
    match ofName? name with
    | some value => .ok value
    | none => .error (.unknownVariant name known)
  let byte ← valueToken
  if byte = 0x22 then name
  else if byte = 0x7B then
    Reader.advance
    let value ← name
    match ← Reader.peekToken with
    | none => Reader.failAhead .endInRecord
    | some colon => if colon = 0x3A then Reader.advance else Reader.failAhead .expectedColon
    unit
    match ← Reader.peekToken with
    | none => Reader.fail .endInRecord
    | some close =>
      if close = 0x7D then Reader.advance; pure value else Reader.fail .expectedValue
  else Reader.failAhead .expectedValue

/-- Whether a list goes on, passing the comma before any item but the first. -/
def hasItem (first : Bool) : Reader Bool := do
  match ← Reader.peekToken with
  | none => Reader.failAhead .endInList
  | some byte =>
    if byte = 0x5D then pure false
    else if first then pure true
    else if byte = 0x2C then
      Reader.advance
      match ← Reader.peekToken with
      | none => Reader.failAhead .endInValue
      | some next => if next = 0x5D then Reader.failAhead .trailingComma else pure true
    else Reader.failAhead .expectedListEnd

/-- Passes the end of a list whose items are behind. -/
def endList : Reader Unit := do
  match ← Reader.peekToken with
  | none => Reader.failAhead .endInList
  | some byte =>
    if byte = 0x5D then Reader.advance
    else if byte = 0x2C then
      Reader.advance
      if (← Reader.peekToken) = some 0x5D then Reader.failAhead .trailingComma
      else Reader.failAhead .trailingCharacters
    else Reader.failAhead .trailingCharacters

/-- The items of a list, taken ones last first. Every item passes a byte, so a round per byte is
enough. -/
def items (read : Reader α) : Nat → List α → Reader (List α)
  | 0, _ => Reader.failAhead .endInList
  | fuel + 1, taken => do
    if ← hasItem taken.isEmpty then
      let item ← read
      items read fuel (item :: taken)
    else pure taken.reverse

/-- A list. -/
def list (read : Reader α) : Reader (List α) := do
  let byte ← valueToken
  if byte = 0x5B then
    Reader.advance
    let values ← items read ((← Reader.remaining) + 1) []
    endList
    pure values
  else wrongType byte "a sequence"

/-- A whole body: one value and nothing behind it. -/
def body (read : Reader α) (bytes : List UInt8) : Except Error α :=
  (do
    let value ← read
    match ← Reader.peekToken with
    | none => pure value
    | some _ => Reader.failAhead .trailingCharacters : Reader α).run' (.start bytes)

end LinkGuard.Json.Read
