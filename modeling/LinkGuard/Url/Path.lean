import LinkGuard.Url.Component

/-!
# Paths

A path is read segment by segment. A segment `.` adds nothing and `..` takes the segment before it
back, also when their points are written as `%2e`. The slash behind a drive letter is never taken
back, and in links to files a drive letter at the front is written with a colon.

The path read so far is kept last character first, which makes both its end and the segment that
`..` takes back the beginning of a list.
-/

namespace LinkGuard.Url.Path

/-- What decides how a path is read: whether a backslash is a slash, and whether drive letters
matter. -/
structure Rules where
  special : Bool
  file : Bool

/-- A letter and a colon or bar, possibly followed by something that ends a segment. -/
def startsWithDrive : List Char → Bool
  | letter :: mark :: rest =>
    letter.isAlpha && (mark == ':' || mark == '|') &&
      (match rest with
      | [] => true
      | next :: _ => ['/', '\\', '?', '#'].contains next)
  | _ => false

/-- A letter and a colon or bar. -/
def isDrive (segment : List Char) : Bool :=
  segment.length == 2 && startsWithDrive segment

/-- A letter and a colon. -/
def isDriveColon (segment : List Char) : Bool :=
  isDrive segment && segment.getLast? == some ':'

/-- A segment that stands for the directory it is in. -/
def isHere (segment : List Char) : Bool :=
  [['.'], ['%', '2', 'e']].contains (segment.map Char.toLower)

/-- A segment that stands for the directory above. -/
def isAbove (segment : List Char) : Bool :=
  [['.', '.'], ['%', '2', 'e', '%', '2', 'e'], ['%', '2', 'e', '.'],
    ['.', '%', '2', 'e']].contains (segment.map Char.toLower)

/-- Takes back the slash at the end, unless it is the first or stands behind a drive letter. -/
def dropSlash (path : List Char) : List Char :=
  match path with
  | '/' :: before =>
    let segment := before.takeWhile (· ≠ '/')
    if segment.length = before.length then path
    else if startsWithDrive (segment.reverse ++ ['/']) then path
    else before
  | _ => path

/-- Takes back the last segment, except a drive letter in a link to a file. -/
def dropSegment (rules : Rules) (path : List Char) : List Char :=
  let segment := path.takeWhile (· ≠ '/')
  if rules.file && isDriveColon segment.reverse then path else path.drop segment.length

/-- A path that ends in a slash. -/
def endInSlash : List Char → List Char
  | '/' :: before => '/' :: before
  | path => '/' :: path

/-- A segment that follows the first slash of a link to a file: a drive letter gets its colon, and
a slash if anything follows it. Also tells whether it is a drive letter. -/
def firstSegment (written : List Char) : List Char × Bool :=
  match written with
  | letter :: mark :: rest =>
    if isDrive written then ([letter, ':'], true)
    else if letter.isAlpha && mark == ':' then (letter :: mark :: '/' :: rest, false)
    else (written, false)
  | _ => (written, false)

/-- Adds one segment, with the slash behind it if there is one. Also tells whether it is a drive
letter that makes the host of a link to a file meaningless. -/
def addSegment (rules : Rules) (path segment : List Char) (slash : Bool) : List Char × Bool :=
  let written := Component.path.write segment
  if isAbove written then
    let back := dropSegment rules (dropSlash path)
    (if slash then endInSlash back else back, false)
  else if isHere written then (endInSlash path, false)
  else
    let (written, drive) :=
      match path with
      | [_] => if rules.file then firstSegment written else (written, false)
      | _ => (written, false)
    let added := written.reverse ++ path
    (if slash then '/' :: added else added, drive)

/-- Adds segments. The last one has no slash behind it. -/
def addSegments (rules : Rules) (path : List Char) (drive : Bool) :
    List (List Char) → List Char × Bool
  | [] => (path, drive)
  | [segment] =>
    let (path, met) := addSegment rules path segment false
    (path, drive || met)
  | segment :: rest =>
    let (path, met) := addSegment rules path segment true
    addSegments rules path (drive || met) rest

/-- The segments between slashes. -/
def segments (rules : Rules) : List Char → List (List Char)
  | [] => [[]]
  | character :: rest =>
    if character = '/' ∨ rules.special ∧ character = '\\' then [] :: segments rules rest
    else
      match segments rules rest with
      | [] => [[character]]
      | segment :: more => (character :: segment) :: more

/-- Reads a path behind the beginning that is already there. A path to a file begins with one slash
only. Also tells whether a drive letter was met. -/
def read (rules : Rules) (beginning written : List Char) : List Char × Bool :=
  let (reversed, drive) := addSegments rules beginning.reverse false (segments rules written)
  let path := reversed.reverse
  (if rules.file then '/' :: path.dropWhile (· = '/') else path, drive)

end LinkGuard.Url.Path
