import LinkGuard.Text.Percent
import LinkGuard.Text.Utf8

/-!
# What the parts of a link may hold

Each part of a link lets some ASCII characters stand for themselves and writes all others, and
everything beyond ASCII, with percent signs. The parts further left in a link let through less,
since more characters would end them.
-/

namespace LinkGuard.Url

/-- A part of a link, as far as it decides which characters it lets through. -/
inductive Component where
  | userInfo
  | opaqueHost
  | opaquePath
  | path
  | query
  | specialQuery
  | fragment
  deriving DecidableEq

/-- The characters between space and tilde that a part does not let through. -/
def Component.escaped : Component → List Char
  | userInfo =>
    [' ', '\x22', '<', '>', '\x60', '#', '?', '\x7b', '\x7d', '/', ':', ';', '=', '@', '[', '\\',
      ']', '^', '|']
  | opaqueHost => []
  | opaquePath => []
  | path => [' ', '\x22', '<', '>', '\x60', '#', '?', '\x7b', '\x7d']
  | query => [' ', '\x22', '#', '<', '>']
  | specialQuery => [' ', '\x22', '#', '<', '>', '\x27']
  | fragment => [' ', '\x22', '<', '>', '\x60']

/-- A character that stands for itself. -/
def Component.lets (component : Component) (character : Char) : Bool :=
  0x20 ≤ character.toNat && character.toNat < 0x7F && !component.escaped.contains character

/-- One character in a part. -/
def Component.writeChar (component : Component) (character : Char) : List Char :=
  if component.lets character then [character]
  else
    ((Utf8.encodeChar character).flatMap Percent.encodeByte).map fun byte => Char.ofNat byte.toNat

/-- A run of characters in a part. -/
def Component.write (component : Component) (characters : List Char) : List Char :=
  characters.flatMap component.writeChar

end LinkGuard.Url
