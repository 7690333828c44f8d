import LinkGuard.Text.Utf8

/-!
# Fields of the compact format

A compact message is a sequence of fields, each a key and a value. The key is a number that holds
the tag of the field and the kind of its value; numbers are written seven bits at a time, the low
ones first, each byte but the last with its high bit set. A number takes ten bytes at most, and
the tenth can only hold the last bit of 64.

Readers take the bytes still to read and give a value and the bytes behind it. Fields with unknown
tags are passed over; a group is passed up to its matching end, at most a hundred groups deep.
-/

namespace LinkGuard.Wire

/-- The kind of a field's value. -/
inductive Kind where
  | varint
  | bits64
  | chunk
  | groupStart
  | groupEnd
  | bits32
  deriving DecidableEq, Repr

/-- The number of a kind in a key. -/
def Kind.code : Kind → Nat
  | varint => 0
  | bits64 => 1
  | chunk => 2
  | groupStart => 3
  | groupEnd => 4
  | bits32 => 5

/-- How messages call a kind. -/
def Kind.describe : Kind → String
  | varint => "Varint"
  | bits64 => "SixtyFourBit"
  | chunk => "LengthDelimited"
  | groupStart => "StartGroup"
  | groupEnd => "EndGroup"
  | bits32 => "ThirtyTwoBit"

/-- The kind with a number. -/
def Kind.ofCode? (code : Nat) : Option Kind :=
  [varint, bits64, chunk, groupStart, groupEnd, bits32].find? fun kind => kind.code = code

/-- Why bytes are no message. -/
inductive Problem where
  | invalidNumber
  | underflow
  | wrongKind (found expected : Kind)
  | unknownKind (code : Nat)
  | zeroTag
  | keyTooLarge (key : Nat)
  | unexpectedGroupEnd
  | tooDeep
  | chunkExceeded
  | notText
  deriving DecidableEq, Repr

/-- The wording of a problem. -/
def Problem.describe : Problem → String
  | invalidNumber => "invalid varint"
  | underflow => "buffer underflow"
  | wrongKind found expected =>
    "invalid wire type: " ++ found.describe ++ " (expected " ++ expected.describe ++ ")"
  | unknownKind code => "invalid wire type value: " ++ toString code
  | zeroTag => "invalid tag value: 0"
  | keyTooLarge key => "invalid key value: " ++ toString key
  | unexpectedGroupEnd => "unexpected end group tag"
  | tooDeep => "recursion limit reached"
  | chunkExceeded => "delimited length exceeded"
  | notText => "invalid string value: data is not UTF-8 encoded"

/-- A problem and, when it lies in a known field, the name of that field. -/
structure Error where
  problem : Problem
  field : Option String
  deriving DecidableEq, Repr

/-- The text of the error. -/
def Error.message (error : Error) : String :=
  "failed to decode Protobuf message: " ++
    (match error.field with
    | some field => field ++ ": "
    | none => "") ++ error.problem.describe

/-- A number in the compact format. -/
def writeNumber (value : Nat) : List UInt8 :=
  if value < 128 then [value.toUInt8]
  else (value % 128 + 128).toUInt8 :: writeNumber (value / 128)
  termination_by value
  decreasing_by omega

/-- Reads the bytes of a number whose first `read` bytes stand for `value`; also how many bytes the
number takes. -/
def readNumberFrom (read value : Nat) : List UInt8 → Except Problem ((Nat × Nat) × List UInt8)
  | [] => .error .invalidNumber
  | byte :: rest =>
    let value := value + byte.toNat % 128 * Nat.pow 128 read
    if byte.toNat < 128 then
      if read = 9 ∧ 1 < byte.toNat then .error .invalidNumber else .ok ((value, read + 1), rest)
    else if read = 9 then .error .invalidNumber
    else readNumberFrom (read + 1) value rest

/-- Reads a number. -/
def readNumber (bytes : List UInt8) : Except Problem (Nat × List UInt8) :=
  (readNumberFrom 0 0 bytes).map fun ((value, _), rest) => (value, rest)

/-- The key of a field. -/
def writeKey (tag : Nat) (kind : Kind) : List UInt8 :=
  writeNumber (tag * 8 + kind.code)

/-- Reads a key: the tag and the kind. -/
def readKey (bytes : List UInt8) : Except Problem ((Nat × Kind) × List UInt8) := do
  let (key, rest) ← readNumber bytes
  if Nat.pow 2 32 ≤ key then .error (.keyTooLarge key)
  else
    match Kind.ofCode? (key % 8) with
    | none => .error (.unknownKind (key % 8))
    | some kind => if key / 8 = 0 then .error .zeroTag else .ok ((key / 8, kind), rest)

/-- Splits off a number of bytes onto those already taken, which are kept last first. -/
def takeOnto (taken : List UInt8) : Nat → List UInt8 → Except Problem (List UInt8 × List UInt8)
  | 0, bytes => .ok (taken.reverse, bytes)
  | _ + 1, [] => .error .underflow
  | count + 1, byte :: rest => takeOnto (byte :: taken) count rest

/-- Splits off a number of bytes. -/
def take (count : Nat) (bytes : List UInt8) : Except Problem (List UInt8 × List UInt8) :=
  takeOnto [] count bytes

/-- Reads a chunk: its length and that many bytes. -/
def readChunk (bytes : List UInt8) : Except Problem (List UInt8 × List UInt8) := do
  let (length, rest) ← readNumber bytes
  take length rest

/-- A chunk. -/
def writeChunk (bytes : List UInt8) : List UInt8 :=
  writeNumber bytes.length ++ bytes

/-- How deep groups may nest. -/
def depthLimit : Nat := 100

/-- Passes the value of an unknown field. `groups` are the tags of the groups that are open around
it, innermost first; the value ends when none is left. Every round passes a byte, so a round per
byte is enough. -/
def skip : Nat → List Nat → Nat → Kind → List UInt8 → Except Problem (List UInt8)
  | 0, _, _, _, _ => .error .underflow
  | fuel + 1, groups, tag, kind, bytes => do
    let (groups, rest) ←
      match kind with
      | .varint => (readNumber bytes).map fun (_, rest) => (groups, rest)
      | .bits64 => (take 8 bytes).map fun (_, rest) => (groups, rest)
      | .bits32 => (take 4 bytes).map fun (_, rest) => (groups, rest)
      | .chunk => (readChunk bytes).map fun (_, rest) => (groups, rest)
      | .groupStart => Except.ok (tag :: groups, bytes)
      | .groupEnd =>
        match groups with
        | opened :: outer =>
          if opened = tag then Except.ok (outer, bytes) else .error .unexpectedGroupEnd
        | [] => .error .unexpectedGroupEnd
    if groups = [] then .ok rest
    else
      let ((tag, kind), rest) ← readKey rest
      if kind ≠ .groupEnd ∧ depthLimit ≤ groups.length then .error .tooDeep
      else skip fuel groups tag kind rest

/-- Requires a kind. -/
def require (expected found : Kind) : Except Problem Unit :=
  if found = expected then .ok () else .error (.wrongKind found expected)

/-- Reads the numbers of a chunk with `owed` bytes left. A number may not run past its end. -/
def readPacked : Nat → Nat → List Nat → List UInt8 → Except Problem (List Nat × List UInt8)
  | 0, _, _, _ => .error .invalidNumber
  | fuel + 1, owed, numbers, bytes => do
    if owed = 0 then .ok (numbers.reverse, bytes)
    else
      let ((value, size), rest) ← readNumberFrom 0 0 bytes
      if owed < size then .error .chunkExceeded
      else readPacked fuel (owed - size) (value :: numbers) rest

/-- Reads the value of a field of repeated numbers: one number, or a chunk of them. -/
def readNumbers (kind : Kind) (bytes : List UInt8) : Except Problem (List Nat × List UInt8) := do
  if kind = .chunk then
    let (length, rest) ← readNumber bytes
    let _ ← take length rest
    readPacked (length + 1) length [] rest
  else
    require .varint kind
    let (value, rest) ← readNumber bytes
    .ok ([value], rest)

/-- Reads the value of a field that holds a text. -/
def readText (kind : Kind) (bytes : List UInt8) : Except Problem (String × List UInt8) := do
  require .chunk kind
  let (chunk, rest) ← readChunk bytes
  match Utf8.decode? chunk with
  | some text => .ok (text, rest)
  | none => .error .notText

/-- One known field: its tag, its name in messages, and how its value is merged into the message
read so far. -/
structure Field (α : Type) where
  tag : Nat
  name : String
  merge : Kind → α → List UInt8 → Except Problem (α × List UInt8)

/-- Reads fields until the bytes end. Every round passes a byte, so a round per byte is enough. -/
def readFields {α : Type} (fields : List (Field α)) : Nat → α → List UInt8 → Except Error α
  | _, message, [] => .ok message
  | 0, _, _ :: _ => .error ⟨.underflow, none⟩
  | fuel + 1, message, byte :: rest => do
    let ((tag, kind), rest) ← (readKey (byte :: rest)).mapError fun problem => ⟨problem, none⟩
    match fields.find? fun field => field.tag == tag with
    | some field =>
      let (message, rest) ←
        (field.merge kind message rest).mapError fun problem => ⟨problem, some field.name⟩
      readFields fields fuel message rest
    | none =>
      let rest ← (skip (fuel + 1) [] tag kind rest).mapError fun problem => ⟨problem, none⟩
      readFields fields fuel message rest

/-- Reads a message from an empty one. -/
def readMessage {α : Type} (fields : List (Field α)) (empty : α) (bytes : List UInt8) :
    Except Error α :=
  readFields fields bytes.length empty bytes

end LinkGuard.Wire
