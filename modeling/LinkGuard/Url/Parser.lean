import LinkGuard.Url.Host
import LinkGuard.Url.Path

/-!
# Reading links

Links are read the way browsers read them. Blanks and controls around the text and line breaks in
it do not count. Well-known schemes forgive missing and backward slashes, and always have a host;
links to files have one only when it matters; other schemes may have an authority, a rooted path
or one opaque path.
-/

namespace LinkGuard.Url

/-- The schemes every reader knows. -/
inductive SchemeKind where
  | file
  | special
  | other
  deriving DecidableEq

/-- The kind of a scheme. -/
def SchemeKind.of (scheme : String) : SchemeKind :=
  if scheme = "file" then file
  else if ["http", "https", "ws", "wss", "ftp"].contains scheme then special
  else other

/-- Whether a backslash counts as a slash. -/
def SchemeKind.isSpecial (kind : SchemeKind) : Bool :=
  kind != other

/-- How paths are read. -/
def SchemeKind.rules (kind : SchemeKind) : Path.Rules :=
  ⟨kind.isSpecial, kind == file⟩

/-- The port a scheme uses when none is given. -/
def defaultPort? (scheme : String) : Option Nat :=
  if scheme = "http" ∨ scheme = "ws" then some 80
  else if scheme = "https" ∨ scheme = "wss" then some 443
  else if scheme = "ftp" then some 21
  else none

/-- Drops what does not count: controls and blanks around the text, tabs and line breaks in it. -/
def clean (text : List Char) : List Char :=
  let outer (character : Char) := character.toNat ≤ 0x20
  let trimmed := ((text.dropWhile outer).reverse.dropWhile outer).reverse
  trimmed.filter fun character => character ∉ ['\t', '\n', '\r']

/-- A character of a scheme behind its first letter. -/
def isSchemeChar (character : Char) : Bool :=
  character.isAlphanum || ['+', '-', '.'].contains character

/-- The scheme in front of a text, in small letters, and what follows its colon. -/
def splitScheme? (text : List Char) : Option (String × List Char) :=
  match text with
  | first :: _ =>
    if first.isAlpha then
      let scheme := text.takeWhile isSchemeChar
      match text.drop scheme.length with
      | ':' :: rest => some (String.ofList (scheme.map Char.toLower), rest)
      | _ => none
    else none
  | [] => none

/-- A character that ends an authority. -/
def endsAuthority (kind : SchemeKind) (character : Char) : Bool :=
  ['/', '?', '#'].contains character || (kind.isSpecial && character == '\\')

/-- Splits a text behind its last `@`. -/
def splitUserInfo? (authority : List Char) : Option (List Char × List Char) :=
  let host := (authority.reverse.takeWhile (· ≠ '@')).reverse
  if host.length = authority.length then none
  else some (authority.take (authority.length - host.length - 1), host)

/-- The user name and the password of a text; an empty password is none. -/
def readUserInfo (text : List Char) : String × Option String :=
  let name := text.takeWhile (· ≠ ':')
  let password := text.drop (name.length + 1)
  (String.ofList (Component.userInfo.write name),
    if password = [] then none else some (String.ofList (Component.userInfo.write password)))

/-- The text of a host: it ends at a colon outside brackets. -/
def takeHost (bracket : Bool) : List Char → List Char
  | [] => []
  | character :: rest =>
    if character = ':' ∧ !bracket then []
    else
      character ::
        takeHost (if character = '[' then true else if character = ']' then false else bracket) rest

/-- A character that ends a port. -/
def endsPort (character : Char) : Bool :=
  ['/', '\\', '?', '#'].contains character

/-- The number of a port, unless it is too large. -/
def portValue? (digits : List Char) : Option Nat :=
  digits.foldlM (fun value digit =>
    let longer := value * 10 + (digit.toNat - '0'.toNat)
    if longer < 65536 then some longer else none) 0

/-- A port behind its colon; the one a scheme uses anyway is none. -/
def readPort (scheme : String) (text : List Char) :
    Except UrlError (Option Nat × List Char) :=
  let digits := text.takeWhile Char.isDigit
  let rest := text.drop digits.length
  match portValue? digits with
  | none => .error .invalidPort
  | some value =>
    if rest.head?.any (!endsPort ·) then .error .invalidPort
    else if digits = [] ∨ defaultPort? scheme = some value then .ok (none, rest)
    else .ok (some value, rest)

/-- A query and a fragment, behind the path. -/
def readTail (kind : SchemeKind) (text : List Char) (url : Url) : Url :=
  let component := if kind.isSpecial then Component.specialQuery else .query
  let query := text.takeWhile (· ≠ '#')
  let fragment := text.drop query.length
  { url with
    query :=
      match query with
      | '?' :: rest => some (String.ofList (component.write rest))
      | _ => none
    fragment :=
      match fragment with
      | '#' :: rest => some (String.ofList (Component.fragment.write rest))
      | _ => none }

/-- Splits a text in front of its query or fragment. -/
def splitTail (text : List Char) : List Char × List Char :=
  let path := text.takeWhile fun character => character ≠ '?' ∧ character ≠ '#'
  (path, text.drop path.length)

/-- A path behind a beginning that is already there, then a query and a fragment. -/
def readPath (kind : SchemeKind) (beginning : List Char) (text : List Char) (url : Url) :
    Url × Bool :=
  let (path, tail) := splitTail text
  let (path, drive) := Path.read kind.rules beginning path
  (readTail kind tail { url with path := String.ofList path }, drive)

/-- A path behind an authority. Well-known schemes always have one. -/
def readRootedPath (kind : SchemeKind) (text : List Char) (url : Url) : Url × Bool :=
  match text with
  | [] => if kind.isSpecial then readPath kind ['/'] [] url else (url, false)
  | first :: rest =>
    if kind.isSpecial then
      readPath kind ['/'] (if first = '/' ∨ first = '\\' then rest else text) url
    else if first = '?' ∨ first = '#' then (readTail kind text url, false)
    else if first = '/' then readPath kind ['/'] rest url
    else readPath kind ['/'] text url

/-- An authority behind its slashes, and all that follows. -/
def readAuthority (kind : SchemeKind) (scheme : String) (text : List Char) :
    Except UrlError Url := do
  let authority := text.takeWhile fun character => !endsAuthority kind character
  let behind := text.drop authority.length
  let (info, address) :=
    match splitUserInfo? authority with
    | some (info, address) => (some info, address)
    | none => (none, authority)
  if info = some [] ∧ address = [] ∧ behind ≠ [] then .error .emptyHost
  else
    let (username, password) := readUserInfo (info.getD [])
    let written := takeHost false address
    let afterHost := address.drop written.length ++ behind
    if kind = .special ∧ written = [] then .error .emptyHost
    else
      let host ← if kind.isSpecial then Host.parse written else Host.parseOpaque written
      if host = "" ∧ afterHost.head? = some ':' then .error .emptyHost
      else
        let (port, rest) ←
          match afterHost with
          | ':' :: rest => readPort scheme rest
          | _ => .ok (none, afterHost)
        if host = "" ∧ (username ≠ "" ∨ password.isSome) then .error .emptyHost
        else
          .ok (readRootedPath kind rest
            { scheme, username, password, port, rooted := true
              host := if host = "" then none else some host }).1

/-- A link to a file, behind the scheme. Its host is dropped when it is the local one, and when
the path begins with a drive letter. -/
def readFile (text : List Char) : Except UrlError Url :=
  let url : Url := { scheme := "file", rooted := true }
  let isSlash (character : Char) : Bool := character == '/' || character == '\\'
  match text with
  | first :: second :: rest =>
    if isSlash first then
      if isSlash second then
        let written := rest.takeWhile fun character => character ∉ ['/', '\\', '?', '#']
        if written = [] ∨ Path.isDrive written then .ok (readPath .file ['/'] rest url).1
        else do
          let host ← Host.parse written
          let behind := rest.drop written.length
          if host = "localhost" then .ok (readPath .file ['/'] behind url).1
          else
            let (found, drive) := readRootedPath .file behind { url with host := some host }
            .ok (if drive then { found with host := none } else found)
      else .ok (readPath .file [] text url).1
    else .ok (readPath .file ['/'] text url).1
  | [first] => .ok (readPath .file (if isSlash first then [] else ['/']) text url).1
  | [] => .ok (readPath .file ['/'] text url).1

/-- A link of an unknown scheme without an authority. -/
def readPlain (scheme : String) (text : List Char) : Url :=
  match text with
  | '/' :: rest => (readPath .other ['/'] rest { scheme }).1
  | _ =>
    let (path, tail) := splitTail text
    readTail .other tail { scheme, path := String.ofList (Component.opaquePath.write path) }

/-- Reads a link from characters. -/
def parseChars (text : List Char) : Except UrlError Url :=
  match splitScheme? (clean text) with
  | none => .error .relativeWithoutBase
  | some (scheme, rest) =>
    match SchemeKind.of scheme with
    | .file => readFile rest
    | .special =>
      readAuthority .special scheme
        (rest.dropWhile fun character => character = '/' ∨ character = '\\')
    | .other =>
      match rest with
      | '/' :: '/' :: rest => readAuthority .other scheme rest
      | _ => .ok (readPlain scheme rest)

/-- Reads a link. -/
def parse (text : String) : Except UrlError Url :=
  parseChars text.toList

/-- The first segment of a path. -/
def firstSegment (path : String) : List Char :=
  (path.toList.drop 1).takeWhile (· ≠ '/')

/-- The link to a rooted path on the same host, without a query. A drive letter stays. -/
def atPath (url : Url) (path : String) : Except UrlError Url :=
  if url.isOpaque then .error .relativeToOpaque
  else if url.scheme = "file" ∧ Path.isDriveColon (firstSegment url.path) then
    .ok { url with
      host := none
      path := "/" ++ String.ofList (firstSegment url.path) ++ path
      query := none
      fragment := none }
  else .ok { url with path, query := none, fragment := none }

/-- Reads a link that a visitor typed or followed. Without a scheme it is read as `http`. -/
def parseTarget (text : String) : Except UrlError Url :=
  match parse text with
  | .error .relativeWithoutBase =>
    parseChars ("http://".toList ++ text.toList.dropWhile (· = '/'))
  | result => result

end LinkGuard.Url
