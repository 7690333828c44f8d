import LinkGuard.Domain.Ascii
import LinkGuard.Text.Percent
import LinkGuard.Url.Address
import LinkGuard.Url.Basic
import LinkGuard.Url.Component

/-!
# Hosts

Links of well-known schemes name their host by a domain or an address, and percent-encoding in it
is undone first. Other schemes may use any text as a host; it is kept as it is, apart from
characters that could end it. Brackets hold an IPv6 address in both.
-/

namespace LinkGuard.Host

/-- A host in brackets, when the text begins with one. -/
def bracketed? (written : List Char) : Option (Except UrlError String) :=
  match written with
  | '[' :: rest =>
    some <|
      if rest.getLast? = some ']' then
        match Address.ipv6? rest.dropLast with
        | some pieces => .ok ("[" ++ Address.writeIpv6 pieces ++ "]")
        | none => .error .invalidIpv6
      else .error .invalidIpv6
  | _ => none

/-- The host of a link of a well-known scheme. -/
def parse (written : List Char) : Except UrlError String :=
  match bracketed? written with
  | some host => host
  | none =>
    match Utf8.decode? (Percent.decode (Utf8.encodeChars written)) with
    | none => .error .invalidDomain
    | some name =>
      match Domain.toAscii? name.toList with
      | none => .error .invalidDomain
      | some [] => .error .emptyHost
      | some domain =>
        let labels := Text.splitChars '.' domain
        if Address.endsInNumber labels then
          match Address.ipv4? labels with
          | some address => .ok (Address.writeIpv4 address)
          | none => .error .invalidIpv4
        else .ok (String.ofList domain)

/-- The host of a link of any other scheme. -/
def parseOpaque (written : List Char) : Except UrlError String :=
  match bracketed? written with
  | some host => host
  | none =>
    if written.any fun character => ['\x00', '\t', '\n', '\r', ' ', '#', '/', ':', '<', '>', '?',
        '@', '[', '\\', ']', '^', '|'].contains character then
      .error .invalidDomainCharacter
    else .ok (String.ofList (Url.Component.opaqueHost.write written))

end LinkGuard.Host
