import LinkGuard.Cache.File

/-!
# Migrations

Opening a cache file brings it to the current layout. Layout 1 has the table of rows with times in
seconds, layout 2 has times in milliseconds. Each statement of a migration is committed on its own,
so a migration that stops leaves the file as its last finished statement left it, and the
statements of two openers may interleave.
-/

namespace LinkGuard.Cache

/-- One statement of a migration. An index makes reading faster and changes nothing else. -/
inductive Statement where
  | createVersions
  | createRows
  | indexRows
  | scaleExpiry
  | clearVersions
  | recordVersion (version : Int)
  deriving DecidableEq, Repr

/-- The current layout. -/
def currentVersion : Int := 2

/-- A row with its time turned from seconds into milliseconds. -/
def Row.scaled (row : Row) : Row := { row with expiry := row.expiry * 1000 }

namespace Statement

/-- Runs one statement. -/
def run (file : File) : Statement → Except Error File
  | createVersions => .ok { file with versions := some (file.versions.getD []) }
  | createRows => .ok { file with rows := some (file.rows.getD []) }
  | indexRows => do
    let _ ← file.table
    return file
  | scaleExpiry => do
    return { file with rows := some ((← file.table).map Row.scaled) }
  | clearVersions =>
    match file.versions with
    | some _ => .ok { file with versions := some [] }
    | none => .error .database
  | recordVersion version =>
    match file.versions with
    | some versions =>
      if version ∈ versions then .error .database
      else .ok { file with versions := some (versions ++ [version]) }
    | none => .error .database

/-- Runs statements in order and stops at the first that fails. What was done before stays. -/
def runAll (file : File) : List Statement → File × Except Error Unit
  | [] => (file, .ok ())
  | statement :: rest =>
    match statement.run file with
    | .ok file => runAll file rest
    | .error error => (file, .error error)

end Statement

/-- The layout that a file says it has. A file without a record, or with one that is not a 32-bit
integer, says 0. -/
def File.version (file : File) : Int :=
  match (file.versions.getD []).head? with
  | some version => if Int.bmod version (Nat.pow 2 32) = version then version else 0
  | none => 0

/-- The statements that bring a file of some layout to the current one. -/
def pending (version : Int) : List Statement :=
  if version < currentVersion then
    (if version < 1 then [.createRows, .indexRows] else []) ++
      [.scaleExpiry, .clearVersions, .recordVersion currentVersion]
  else []

/-- Opens a file: brings it to the current layout. -/
def File.migrate (file : File) : File × Except Error Unit :=
  match Statement.createVersions.run file with
  | .ok file => Statement.runAll file (pending file.version)
  | .error error => (file, .error error)

/-- How far an opener has come: before its first statement, before it reads the layout, or with
statements left. -/
inductive Opening where
  | start
  | reading
  | running (statements : List Statement)
  deriving DecidableEq, Repr

/-- The next step of an opener, if there is one. An error ends the opening. -/
def Opening.step? (file : File) : Opening → Option (Except Error (File × Opening))
  | start => some ((Statement.createVersions.run file).map (·, .reading))
  | reading => some (.ok (file, .running (pending file.version)))
  | running (statement :: rest) => some ((statement.run file).map (·, .running rest))
  | running [] => none

/-- The opener has brought the file to the current layout. -/
def Opening.isDone : Opening → Bool
  | running [] => true
  | _ => false

end LinkGuard.Cache
