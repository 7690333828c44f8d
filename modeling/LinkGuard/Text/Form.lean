import LinkGuard.Text.Percent
import LinkGuard.Text.Utf8

/-!
# Form-encoded parameters

Query strings carry pairs of texts. In writing, a space becomes `+`, letters, digits and `*-._`
stay, and every other byte of the UTF-8 form becomes `%` and two capital hex digits. In reading,
`&` separates pairs, the first `=` of a pair separates name and value, pairs without any
character are skipped, `+` is a space, and a `%` that is not followed by two hex digits stands
for itself. Bytes that are not UTF-8 after decoding are read lossily, so reading never fails.
-/

namespace LinkGuard.Form

/-- A byte that stands for itself in a form. -/
def isPlain (byte : UInt8) : Bool :=
  (0x61 ≤ byte && byte ≤ 0x7A) || (0x41 ≤ byte && byte ≤ 0x5A) ||
    (0x30 ≤ byte && byte ≤ 0x39) ||
    byte == 0x2A || byte == 0x2D || byte == 0x2E || byte == 0x5F

/-- The written form of one byte. -/
def encodeByte (byte : UInt8) : List UInt8 :=
  if isPlain byte then [byte] else if byte = 0x20 then [0x2B] else Percent.encodeByte byte

/-- The written form of a name or value, as bytes. -/
def encodeBytes (text : String) : List UInt8 :=
  (Utf8.encode text).flatMap encodeByte

/-- The written form of a name or value. -/
def encode (text : String) : String :=
  String.ofList ((encodeBytes text).map fun byte => Char.ofNat byte.toNat)

/-- Reads a name or value back. -/
def decode (bytes : List UInt8) : String :=
  Utf8.decodeLossy (Percent.decode (bytes.map fun byte => if byte = 0x2B then 0x20 else byte))

/-- The pieces of a byte string between separators. -/
def splitBytes (separator : UInt8) (bytes : List UInt8) : List (List UInt8) :=
  bytes.splitOn separator

/-- A pair split at its first `=`; without one the value is empty. -/
def splitPair (piece : List UInt8) : List UInt8 × List UInt8 :=
  (piece.takeWhile (· ≠ 0x3D), (piece.dropWhile (· ≠ 0x3D)).drop 1)

/-- Reads the pairs of a query string. -/
def parse (query : String) : List (String × String) :=
  ((splitBytes 0x26 (Utf8.encode query)).filter (· ≠ [])).map fun piece =>
    let (name, value) := splitPair piece
    (decode name, decode value)

/-- Writes pairs as a query string. -/
def write (pairs : List (String × String)) : String :=
  "&".intercalate (pairs.map fun (name, value) => encode name ++ "=" ++ encode value)

/-- The value of the first pair with a name. -/
def firstValue? (name : String) (pairs : List (String × String)) : Option String :=
  (pairs.find? fun pair => pair.1 = name).map (·.2)

end LinkGuard.Form
