/-!
# Network addresses as hosts

A host whose last label is a number is an IPv4 address. Its parts may be decimal, octal or
hexadecimal, and the last part covers all bytes the others leave. A host in brackets is an IPv6
address: eight pieces of 16 bits, where one run of zero pieces may be left out and the last two
pieces may be written as an IPv4 address. Writing is canonical for both.
-/

namespace LinkGuard.Address

/-- The value of a digit in some base up to 16. -/
def digitValue? (base : Nat) (character : Char) : Option Nat :=
  let code := character.toNat
  let value :=
    if 0x30 ≤ code ∧ code ≤ 0x39 then some (code - 0x30)
    else if 0x61 ≤ code ∧ code ≤ 0x66 then some (code - 0x57)
    else if 0x41 ≤ code ∧ code ≤ 0x46 then some (code - 0x37)
    else none
  value.filter (· < base)

/-- The value of a run of digits. -/
def number? (base : Nat) (digits : List Char) : Option Nat :=
  digits.foldlM (fun value digit => (digitValue? base digit).map (value * base + ·)) 0

/-- One part of an IPv4 address. -/
def part? (part : List Char) : Option Nat :=
  match part with
  | [] => none
  | '0' :: 'x' :: digits | '0' :: 'X' :: digits => number? 16 digits
  | '0' :: digit :: digits => number? 8 (digit :: digits)
  | digits => number? 10 digits

/-- The parts of a host, without the empty one behind a final point. -/
def parts (host : List (List Char)) : List (List Char) :=
  match host.reverse with
  | [] :: rest => rest.reverse
  | _ => host

/-- Whether the labels of a host end in a number. -/
def endsInNumber (labels : List (List Char)) : Bool :=
  match labels.reverse with
  | [] => false
  | [] :: rest => rest.head?.any isNumber
  | last :: _ => isNumber last
where
  /-- A label of digits, or one that reads as a part of an address. -/
  isNumber (label : List Char) : Bool :=
    (!label.isEmpty && label.all Char.isDigit) || (part? label).isSome

/-- The value of an IPv4 address with these labels. -/
def ipv4? (labels : List (List Char)) : Option Nat := do
  let numbers ← (parts labels).mapM part?
  match numbers.reverse with
  | [] => none
  | last :: front =>
    if 3 < front.length then none
    else if front.any (255 < ·) || Nat.pow 256 (4 - front.length) ≤ last then none
    else
      let add (sum : Nat) (part : Nat × Nat) : Nat := sum + part.1 * Nat.pow 256 (3 - part.2)
      some (front.reverse.zipIdx.foldl add last)

/-- The text of an IPv4 address. -/
def writeIpv4 (value : Nat) : String :=
  ".".intercalate ([16777216, 65536, 256, 1].map fun unit => toString (value / unit % 256))

/-- One byte of an IPv4 address inside an IPv6 address: decimal, without leading zeros. -/
def readByte (written : List Char) : Option (Nat × List Char) :=
  let digits := written.takeWhile Char.isDigit
  match digits with
  | [] => none
  | '0' :: _ :: _ => none
  | _ =>
    match number? 10 digits with
    | some value => if value ≤ 255 then some (value, written.drop digits.length) else none
    | none => none

/-- The two pieces of an IPv4 address at the end of an IPv6 address. -/
def readTail (written : List Char) : Option (List Nat) := do
  let (a, rest) ← readByte written
  let (b, rest) ← point rest >>= readByte
  let (c, rest) ← point rest >>= readByte
  let (d, rest) ← point rest >>= readByte
  if rest = [] then some [a * 256 + b, c * 256 + d] else none
where
  /-- Passes a point. -/
  point : List Char → Option (List Char)
    | '.' :: rest => some rest
    | _ => none

/-- Reads pieces up to the end. `pieces` are those read so far and `gap` is the number of pieces in
front of the run left out, if it was passed. -/
def readPieces : Nat → List Nat → Option Nat → List Char → Option (List Nat × Option Nat)
  | 0, _, _, _ => none
  | fuel + 1, pieces, gap, written =>
    match written with
    | [] => some (pieces, gap)
    | first :: rest =>
      let places := pieces.length + (if gap.isSome then 1 else 0)
      if places = 8 then none
      else if first = ':' then
        if gap.isSome then none else readPieces fuel pieces (some pieces.length) rest
      else
        let digits := (written.takeWhile fun character => (digitValue? 16 character).isSome).take 4
        let behind := written.drop digits.length
        let value := (number? 16 digits).getD 0
        match behind with
        | [] => readPieces fuel (pieces ++ [value]) gap []
        | '.' :: _ =>
          if digits = [] ∨ 6 < places then none
          else (readTail written).map fun tail => (pieces ++ tail, gap)
        | ':' :: after =>
          if after = [] then none else readPieces fuel (pieces ++ [value]) gap after
        | _ => none

/-- The pieces of an IPv6 address. -/
def ipv6? (written : List Char) : Option (List Nat) := do
  let (pieces, gap) ←
    match written with
    | [] | [_] => none
    | ':' :: second :: rest =>
      if second = ':' then readPieces (rest.length + 2) [] (some 0) rest else none
    | _ => readPieces (written.length + 2) [] none written
  match gap with
  | none => if pieces.length = 8 then some pieces else none
  | some front =>
    if 8 < pieces.length then none
    else
      some (pieces.take front ++ List.replicate (8 - pieces.length) 0 ++ pieces.drop front)

/-- The first longest run of zero pieces, if it has two pieces or more: where it begins, and how
long it is. -/
def zeroRun? (pieces : List Nat) : Option (Nat × Nat) :=
  let lengthAt (start : Nat) := ((pieces.drop start).takeWhile (· = 0)).length
  let longest := (List.range pieces.length).foldl (fun best start => max best (lengthAt start)) 0
  if longest < 2 then none
  else ((List.range pieces.length).find? fun start => lengthAt start == longest).map (·, longest)

/-- A run of pieces. -/
def writePieces (pieces : List Nat) : String :=
  ":".intercalate (pieces.map fun piece => String.ofList (Nat.toDigits 16 piece))

/-- The text of an IPv6 address. -/
def writeIpv6 (pieces : List Nat) : String :=
  match zeroRun? pieces with
  | none => writePieces pieces
  | some (start, length) =>
    writePieces (pieces.take start) ++ "::" ++ writePieces (pieces.drop (start + length))

end LinkGuard.Address
