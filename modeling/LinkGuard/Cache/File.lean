import LinkGuard.Verdict

/-!
# The cache file

Verdicts are kept in a table with one row per link. Times are stored in whole milliseconds and
threats as the JSON text of their names, so a row may hold a text that cannot be read back. Beside
the rows the file records which layout they have.

Either table may be missing: a file that has just been created has none, and a table can be removed
by others while the file is open.
-/

namespace LinkGuard.Cache

/-- Why the cache cannot answer. -/
inductive Error where
  | database
  | json (error : Json.Error)
  | directory

/-- The text of the error. -/
def Error.message : Error → String
  | database => "Database error"
  | json error => "JSON error: " ++ error.message
  | directory => "IO error"

/-- A stored verdict. -/
structure Row where
  url : String
  threats : String
  expiry : Int
  deriving DecidableEq, Repr

/-- A cache file: the recorded layout versions and the rows, each if its table is there. -/
structure File where
  versions : Option (List Int) := none
  rows : Option (List Row) := none
  deriving DecidableEq, Repr

/-- The greatest stored integer that can be read back. -/
def greatestStored : Int := Nat.pow 2 63 - 1

/-- Reads the threats of a row back. -/
def readThreats (stored : String) : Except Error (List Threat) :=
  (Json.Read.body (Json.Read.list Threat.read) (Utf8.encode stored)).mapError .json

/-- The row that stores a verdict. -/
def Row.ofVerdict (verdict : Verdict) : Row :=
  ⟨verdict.url, Threat.listToJson verdict.threats, verdict.expiry.milliseconds⟩

/-- The verdict that a row stores. A time that no instant has is replaced by the present one. -/
def Row.verdict (present : Instant) (row : Row) : Except Error Verdict := do
  if greatestStored < row.expiry then .error .database
  else
    let threats ← readThreats row.threats
    .ok ⟨row.url, threats, (Instant.ofMilliseconds? row.expiry).getD present⟩

/-- A row that has not expired. -/
def Row.isFresh (now : Instant) (row : Row) : Bool := now.milliseconds < row.expiry

/-- Puts a row in the place of the one for the same link. -/
def replaceRow (row : Row) (rows : List Row) : List Row :=
  row :: rows.filter fun other => other.url ≠ row.url

namespace File

/-- The rows of the file; without their table nothing can be done. -/
def table (file : File) : Except Error (List Row) :=
  match file.rows with
  | some rows => .ok rows
  | none => .error .database

/-- The verdict for a link that is still fresh at an instant. -/
def find (file : File) (url : String) (now present : Instant) : Except Error (Option Verdict) := do
  match (← file.table).find? fun row => row.url = url && row.isFresh now with
  | some row => return some (← row.verdict present)
  | none => return none

/-- Stores a row in the place of the one for the same link. -/
def putRow (file : File) (row : Row) : Except Error File := do
  return { file with rows := some (replaceRow row (← file.table)) }

/-- Stores a verdict in the place of the one for the same link. -/
def put (file : File) (verdict : Verdict) : Except Error File :=
  file.putRow (.ofVerdict verdict)

/-- Removes the rows that have expired, and counts them. -/
def purge (file : File) (now : Instant) : Except Error (Nat × File) := do
  let rows ← file.table
  let kept := rows.filter (Row.isFresh now)
  return (rows.length - kept.length, { file with rows := some kept })

/-- Counts the rows that are still fresh. -/
def count (file : File) (now : Instant) : Except Error Nat := do
  return ((← file.table).filter (Row.isFresh now)).length

/-- Removes the table of rows. -/
def dropTable (file : File) : File := { file with rows := none }

end File

end LinkGuard.Cache
