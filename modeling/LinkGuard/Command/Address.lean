import LinkGuard.Text.Letters
import LinkGuard.Url.Address

/-!
# Addresses to listen on

An address to listen on is a network address and a port between 0 and 65535, with a colon between
them. A port alone, behind its colon, stands for that port on every IPv4 address of the machine. An
IPv6 address may stand in brackets.
-/

namespace LinkGuard.Command

/-- A network address. -/
inductive Interface where
  | ipv4 (value : Nat)
  | ipv6 (pieces : List Nat)
  deriving DecidableEq, Repr

/-- An address to listen on. -/
structure ListenAddress where
  interface : Interface
  port : Nat
  deriving DecidableEq, Repr

/-- Why a text is no address to listen on. -/
inductive AddressError where
  | noPort
  | invalidPort
  | unknownHost
  deriving DecidableEq, Repr

/-- The text of the error. -/
def AddressError.message : AddressError → String
  | noPort => "invalid socket address"
  | invalidPort => "invalid port value"
  | unknownHost => "failed to lookup address information: Temporary failure in name resolution"

/-- The greatest port. -/
def greatestPort : Nat := 65535

/-- Reads a port: digits, perhaps behind a plus sign. -/
def readPort (written : List Char) : Option Nat :=
  let digits :=
    match written with
    | '+' :: digits => digits
    | digits => digits
  if digits = [] then none else (Address.number? 10 digits).filter (· ≤ greatestPort)

namespace Interface

/-- Every IPv4 address of the machine. -/
def anywhere : Interface := .ipv4 0

/-- The machine itself. -/
def loopback : Interface := .ipv4 0x7F000001

/-- Reads a network address. -/
def read (written : List Char) : Option Interface :=
  let inBrackets :=
    match written, written.getLast? with
    | '[' :: rest, some ']' => some rest.dropLast
    | _, _ => none
  match inBrackets with
  | some inner => (Address.ipv6? inner).map .ipv6
  | none =>
    if ':' ∈ written then (Address.ipv6? written).map .ipv6
    else if written.getLast? = some '.' then none
    else if Text.lower (String.ofList written) = "localhost" then some loopback
    else (Address.ipv4? (Text.splitChars '.' written)).map .ipv4

/-- The text of a network address in front of a port. An IPv6 address that stands for an IPv4
address shows it. -/
def text : Interface → String
  | ipv4 value => Address.writeIpv4 value
  | ipv6 [0, 0, 0, 0, 0, 0xFFFF, upper, lower] =>
    "[::ffff:" ++ Address.writeIpv4 (upper * 65536 + lower) ++ "]"
  | ipv6 pieces => "[" ++ Address.writeIpv6 pieces ++ "]"

end Interface

namespace ListenAddress

/-- The text of an address. -/
def text (address : ListenAddress) : String :=
  address.interface.text ++ ":" ++ toString address.port

/-- Completes a port that stands alone. -/
def complete (written : String) : String :=
  match written.toList with
  | ':' :: _ => anywhereText ++ written
  | _ => written
where
  /-- The text in front of a port that stands alone. -/
  anywhereText : String := Interface.anywhere.text

/-- Reads an address. The port is behind the last colon and is read first. -/
def read (written : String) : Except AddressError ListenAddress :=
  let backwards := written.toList.reverse
  match backwards.dropWhile (· ≠ ':') with
  | [] => .error .noPort
  | _ :: host =>
    match readPort (backwards.takeWhile (· ≠ ':')).reverse with
    | none => .error .invalidPort
    | some port =>
      match Interface.read host.reverse with
      | none => .error .unknownHost
      | some interface => .ok ⟨interface, port⟩

end ListenAddress

end LinkGuard.Command
