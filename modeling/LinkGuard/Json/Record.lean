import LinkGuard.Json.Read

/-!
# Records

A record is read from named members in any order, or from a plain list of values in the order in
which its members are declared. Members with other names are passed over, a member given twice is
an error, and a member left out keeps the value of an empty record unless it is required.

Reading starts from an empty record and fills it member by member, so the shape of a record is
just the list of its members with a reader that stores what it reads.
-/

namespace LinkGuard.Json

/-- One member of a record: its name, whether it may be left out, and how it is read. -/
structure Member (α : Type) where
  name : String
  required : Bool
  read : α → Reader α

/-- The members of a record, in order, and the record they fill. -/
structure Shape (α : Type) where
  title : String
  members : List (Member α)
  empty : α

namespace Shape

variable {α : Type}

/-- How messages call the record when its members come as a list. -/
def expected (shape : Shape α) : String :=
  "struct " ++ shape.title ++ " with " ++ toString shape.members.length ++
    (if shape.members.length = 1 then " element" else " elements")

/-- Stops with a problem of the record as a whole. It is blamed on the closing byte when that is
the next thing ahead. -/
def failRecord (close : UInt8) (problem : Problem) : Reader α := do
  if (← Reader.peekToken) = some close then Reader.advance
  Reader.fail problem

/-- Reads the members of a record that comes as a list, from the one at `index` on. -/
def fromList (shape : Shape α) (index : Nat) (first : Bool) (record : α) :
    List (Member α) → Reader α
  | [] => pure record
  | member :: rest => do
    if ← Read.hasItem first then
      let record ← member.read record
      fromList shape (index + 1) false record rest
    else if member.required then failRecord 0x5D (.wrongLength index shape.expected)
    else fromList shape (index + 1) first record rest

/-- Whether a record goes on with another name, passing the comma before any name but the first. -/
def hasName (first : Bool) : Reader Bool := do
  match ← Reader.peekToken with
  | none => Reader.failAhead .endInRecord
  | some byte =>
    if byte = 0x7D then pure false
    else if first then
      if byte = 0x22 then pure true else Reader.failAhead .nameNotText
    else if byte = 0x2C then
      Reader.advance
      match ← Reader.peekToken with
      | none => Reader.failAhead .endInValue
      | some next =>
        if next = 0x22 then pure true
        else if next = 0x7D then Reader.failAhead .trailingComma
        else Reader.failAhead .nameNotText
    else Reader.failAhead .expectedRecordEnd

/-- Passes the colon between a name and its value. -/
def colon : Reader Unit := do
  match ← Reader.peekToken with
  | none => Reader.failAhead .endInRecord
  | some byte => if byte = 0x3A then Reader.advance else Reader.failAhead .expectedColon

/-- Passes the end of a record whose members are behind. -/
def endRecord : Reader Unit := do
  match ← Reader.peekToken with
  | none => Reader.failAhead .endInRecord
  | some byte =>
    if byte = 0x7D then Reader.advance
    else if byte = 0x2C then Reader.failAhead .trailingComma
    else Reader.failAhead .trailingCharacters

/-- The first required member among those not yet filled. -/
def missing? (shape : Shape α) (filled : List String) : Option (Member α) :=
  shape.members.find? fun member => member.required && !filled.contains member.name

/-- Reads named members until the record ends; `filled` are the names stored so far. Every member
passes a byte, so a round per byte is enough. -/
def fromMembers (shape : Shape α) : Nat → Bool → List String → α → Reader α
  | 0, _, _, _ => Reader.failAhead .endInRecord
  | fuel + 1, first, filled, record => do
    if ← hasName first then
      Reader.advance
      let name ← Literal.read
      match shape.members.find? fun member => member.name == name with
      | some member =>
        if filled.contains name then failRecord 0x7D (.repeatedMember name)
        else
          colon
          let record ← member.read record
          fromMembers shape fuel false (name :: filled) record
      | none =>
        colon
        Skip.value
        fromMembers shape fuel false filled record
    else
      match shape.missing? filled with
      | some member => failRecord 0x7D (.missingMember member.name)
      | none => pure record

/-- Reads a record in either form. -/
def read (shape : Shape α) : Reader α := do
  let byte ← Read.valueToken
  if byte = 0x5B then
    Reader.advance
    let record ← fromList shape 0 true shape.empty shape.members
    Read.endList
    pure record
  else if byte = 0x7B then
    Reader.advance
    let record ← fromMembers shape ((← Reader.remaining) + 1) true [] shape.empty
    endRecord
    pure record
  else Read.wrongType byte ("struct " ++ shape.title)

end Shape

end LinkGuard.Json
