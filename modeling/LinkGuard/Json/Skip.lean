import LinkGuard.Json.Literal
import LinkGuard.Json.Number

/-!
# Passing a value nobody asked for

Members with unknown names are passed over, whatever they hold. Their values are checked for their
grammar alone, and however deeply they nest, the open brackets are kept in a list rather than in
nested calls. Every round passes at least one byte, so a round per byte is enough.
-/

namespace LinkGuard.Json.Skip

/-- An open bracket. -/
inductive Bracket where
  | list
  | record

/-- The byte that closes a bracket. -/
def Bracket.close : Bracket → UInt8
  | list => 0x5D
  | record => 0x7D

/-- The body ended inside the bracket. -/
def Bracket.atEnd : Bracket → Problem
  | list => .endInList
  | record => .endInRecord

/-- Something else than a comma or the closing byte stands behind an item. -/
def Bracket.unclosed : Bracket → Problem
  | list => .expectedListEnd
  | record => .expectedRecordEnd

/-- Passes one scalar, or the opening byte of a list or record. -/
def opening : Reader (Option Bracket) := do
  match ← Reader.peekToken with
  | none => Reader.failAhead .endInValue
  | some byte =>
    if byte = 0x6E then Reader.advance; Reader.word [0x75, 0x6C, 0x6C]; pure none
    else if byte = 0x74 then Reader.advance; Reader.word [0x72, 0x75, 0x65]; pure none
    else if byte = 0x66 then Reader.advance; Reader.word [0x61, 0x6C, 0x73, 0x65]; pure none
    else if byte = 0x2D then Reader.advance; Number.skip; pure none
    else if Number.isDigit byte then Number.skip; pure none
    else if byte = 0x22 then Reader.advance; Literal.skip; pure none
    else if byte = 0x5B then Reader.advance; pure (some .list)
    else if byte = 0x7B then Reader.advance; pure (some .record)
    else Reader.failAhead .expectedValue

/-- Passes the name and colon before a member's value. -/
def memberName : Reader Unit := do
  match ← Reader.peekToken with
  | none => Reader.failAhead .endInRecord
  | some byte => if byte = 0x22 then Reader.advance else Reader.failAhead .nameNotText
  Literal.skip
  match ← Reader.peekToken with
  | none => Reader.failAhead .endInRecord
  | some byte => if byte = 0x3A then Reader.advance else Reader.failAhead .expectedColon

/-- Closes brackets until another value is due; gives the brackets still open. -/
def closing (afterItem : Bool) : List Bracket → Reader (List Bracket)
  | [] => pure []
  | bracket :: outer => do
    match ← Reader.peekToken with
    | none => Reader.failAhead bracket.atEnd
    | some byte =>
      if byte = 0x2C ∧ afterItem then Reader.advance; pure (bracket :: outer)
      else if byte = bracket.close then Reader.advance; closing true outer
      else if afterItem then Reader.failAhead bracket.unclosed
      else pure (bracket :: outer)

/-- Passes values until no bracket is open. -/
def rounds : Nat → List Bracket → Reader Unit
  | 0, _ => Reader.failAhead .endInValue
  | fuel + 1, enclosing => do
    let enclosing ←
      match ← opening with
      | some bracket => closing false (bracket :: enclosing)
      | none => closing true enclosing
    match enclosing with
    | [] => pure ()
    | bracket :: _ =>
      if bracket matches .record then memberName
      rounds fuel enclosing

/-- Passes one value. -/
def value : Reader Unit := do
  rounds ((← Reader.remaining) + 1) []

end LinkGuard.Json.Skip
