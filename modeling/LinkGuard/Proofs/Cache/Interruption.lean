import LinkGuard.Proofs.Cache.Migration

/-!
# Interrupted migrations

An opener may stop before any of its statements, and what it has done until then stays in the file.
We ask when opening the file again finishes the migration, so that the file ends as if nobody had
stopped.

Creating what is there already changes nothing, and a recorded layout keeps a finished migration
from being repeated. But there is a gap. Once the times are scaled, and until the current layout is
recorded, the file says that it is an old one while its rows are those of the current layout. An
opening that finds the file in this state scales the times again, and only rows that had no time to
scale come out right.
-/

namespace LinkGuard.Cache

namespace Opening

/-- The file and its opener after a number of steps, or after fewer if there are no more. A step
that fails leaves the file as it is and ends the opening. -/
def advance (file : File) (opening : Opening) : Nat → File × Except Error Opening
  | 0 => (file, .ok opening)
  | steps + 1 =>
    match opening.step? file with
    | some (.ok (file, opening)) => opening.advance file steps
    | some (.error error) => (file, .error error)
    | none => (file, .ok opening)

end Opening

/-- What is left of a file when its opener stops after a number of steps. -/
def File.stoppedAfter (file : File) (steps : Nat) : File :=
  (Opening.start.advance file steps).1

/-- The opener has not failed, the times are scaled, and the layout is not recorded yet. -/
def IsHalfway : Except Error Opening → Prop
  | .ok (.running statements) =>
    .scaleExpiry ∉ statements ∧ .recordVersion currentVersion ∈ statements
  | _ => False

/-- What can be left of an old file: one with the same migration as before, or one that is halfway,
with scaled rows beside an old layout. -/
inductive Leaves (file : File) : File × Except Error Opening → Prop
  | mendable {left : File} {outcome : Except Error Opening} (whole : ¬IsHalfway outcome)
      (same : left.migrate = file.migrate) : Leaves file (left, outcome)
  | halfway {left : File} {outcome : Except Error Opening} {rows : List Row}
      (half : IsHalfway outcome) (present : file.rows.getD [] = rows)
      (whole : file.migrate = (⟨some [currentVersion], some (rows.map Row.scaled)⟩, .ok ()))
      (old : left.version < currentVersion) (scaled : left.rows = some (rows.map Row.scaled)) :
      Leaves file (left, outcome)

section Steps

variable {file : File} {rows : List Row}

/-- The file once there is a table for the record of its layout. -/
def File.opened (file : File) : File :=
  { file with versions := some (file.versions.getD []) }

@[simp]
theorem File.version_opened (file : File) : file.opened.version = file.version := by
  cases file with
  | mk versions rows => cases versions <;> rfl

theorem File.migrate_eq (file : File) :
    file.migrate = Statement.runAll file.opened (pending file.version) := by
  rw [← file.version_opened]
  rfl

@[simp]
theorem File.migrate_opened (file : File) : file.opened.migrate = file.migrate := by
  simp only [File.migrate_eq, File.version_opened]
  rfl

/-- The statements that turn the rows of an old file into rows of the current layout. -/
def conversion : List Statement :=
  [.scaleExpiry, .clearVersions, .recordVersion currentVersion]

theorem pending_of_old {version : Int} (old : version < currentVersion) :
    pending version =
      if version < 1 then .createRows :: .indexRows :: conversion else conversion := by
  simp only [pending, if_pos old]
  split <;> rfl

theorem Opening.advance_conversion (table : file.rows = some rows) (steps : Nat) :
    (running conversion).advance file.opened steps =
      let scaled := some (rows.map Row.scaled)
      match steps with
      | 0 => (file.opened, .ok (.running conversion))
      | 1 => (⟨file.opened.versions, scaled⟩,
        .ok (.running [.clearVersions, .recordVersion currentVersion]))
      | 2 => (⟨some [], scaled⟩, .ok (.running [.recordVersion currentVersion]))
      | _ + 3 => (⟨some [currentVersion], scaled⟩, .ok (.running [])) := by
  cases file with
  | mk versions present =>
      cases table
      rcases steps with _ | _ | _ | _ | steps <;> rfl

theorem Opening.advance_start (steps : Nat) :
    Opening.start.advance file (steps + 2) =
      (Opening.running (pending file.version)).advance file.opened steps := by
  rw [← file.version_opened]
  rfl

theorem Leaves.of_same {other : File} {stop : File × Except Error Opening}
    (left : Leaves other stop) (same : other.migrate = file.migrate)
    (rows : other.rows.getD [] = file.rows.getD []) : Leaves file stop := by
  cases left with
  | mendable whole kept => exact .mendable whole (kept.trans same)
  | halfway half present whole old scaled =>
      exact .halfway half (rows.symm.trans present) (same.symm.trans whole) old scaled

/-- Between scaling the times and recording the layout the file is left halfway, and nowhere else.
Where there are no rows, scaling fails and nothing is changed. -/
theorem leaves_conversion (old : file.version < currentVersion) (steps : Nat) :
    Leaves file.opened ((Opening.running conversion).advance file.opened steps) := by
  cases table : file.rows with
  | none =>
      cases file with
      | mk versions present =>
          cases table
          cases steps with
          | zero => exact .mendable (by simp [IsHalfway, conversion]) rfl
          | succ steps => exact .mendable id rfl
  | some rows =>
      have present : file.opened.rows.getD [] = rows := by simp [File.opened, table]
      have whole := file.migrate_opened.trans (File.migrate_of_old old table)
      rw [Opening.advance_conversion table]
      rcases steps with _ | _ | _ | steps
      · exact .mendable (by simp [IsHalfway, conversion]) rfl
      · refine .halfway (by simp [IsHalfway]) present whole ?_ rfl
        change file.opened.version < currentVersion
        simpa using old
      · refine .halfway (by simp [IsHalfway]) present whole ?_ rfl
        change (0 : Int) < 2
        decide
      · refine .mendable (by simp [IsHalfway]) ?_
        rw [whole]
        apply File.migrate_of_current
        change (2 : Int) ≤ 2
        decide

/-- The file with a table of verdicts, which is empty if it had none. -/
def File.created (file : File) : File :=
  { file.opened with rows := some (file.rows.getD []) }

theorem File.migrate_created (fresh : file.version < 1) : file.created.migrate = file.migrate := by
  have version_eq : file.created.version = file.version := file.version_opened
  have old : file.version < currentVersion := Int.lt_trans fresh (by decide)
  rw [migrate_eq, migrate_eq, version_eq, pending_of_old old, if_pos fresh]
  rfl

theorem leaves_advance (old : file.version < currentVersion) (steps : Nat) :
    Leaves file (Opening.start.advance file steps) := by
  -- The first two steps create the table of layouts and read it; the statements come behind them.
  rcases steps with _ | _ | steps
  · exact .mendable id rfl
  · exact .mendable id file.migrate_opened
  · rw [Opening.advance_start, pending_of_old old]
    split
    case isFalse =>
      exact (leaves_conversion old steps).of_same file.migrate_opened rfl
    case isTrue fresh =>
      rcases steps with _ | _ | steps
      · exact .mendable (by simp [IsHalfway, conversion]) file.migrate_opened
      · exact .mendable (by simp [IsHalfway, conversion]) (file.migrate_created fresh)
      · have created_old : file.created.version < currentVersion := file.version_opened ▸ old
        exact (leaves_conversion created_old steps).of_same
          (file.created.migrate_opened.trans (file.migrate_created fresh)) rfl

theorem map_scaled_eq_iff :
    (rows.map Row.scaled).map Row.scaled = rows.map Row.scaled ↔ ∀ row ∈ rows, row.expiry = 0 := by
  rw [List.map_map, List.map_inj_left]
  constructor
  · intro same row mem
    have expiry_eq := congrArg Row.expiry (same row mem)
    simp only [Function.comp_apply, Row.scaled] at expiry_eq
    omega
  · intro zero row mem
    simp [Row.scaled, zero row mem]

theorem Opening.advance_eq_migrate (old : file.version < currentVersion) (more : Nat) :
    start.advance file (more + 7) =
      (file.migrate.1, file.migrate.2.map fun _ => running []) := by
  have steps_eq : more + 7 = (more + 5) + 2 := rfl
  rw [steps_eq, advance_start, file.migrate_eq, pending_of_old old]
  rcases file with ⟨versions, _ | rows⟩ <;> split <;> cases more <;> rfl

/-- An opener that nobody stops does the whole migration. Behind one that stops, opening the file
again comes to the same exactly if it has not stopped halfway, or if all times are zero, which is
the same in seconds and in milliseconds. -/
theorem migrate_stoppedAfter_iff (old : file.version < currentVersion) :
    (∀ more, Opening.start.advance file (more + 7) =
      (file.migrate.1, file.migrate.2.map fun _ => .running [])) ∧
    ∀ steps, (file.stoppedAfter steps).migrate = file.migrate ↔
      ¬IsHalfway (Opening.start.advance file steps).2 ∨
        ∀ row ∈ file.rows.getD [], row.expiry = 0 := by
  refine ⟨Opening.advance_eq_migrate old, fun steps => ?_⟩
  have leaves := leaves_advance old steps
  rw [File.stoppedAfter]
  cases stop : Opening.start.advance file steps with
  | mk left outcome =>
      rw [stop] at leaves
      cases leaves with
      | mendable whole same => exact iff_of_true same (.inl whole)
      | halfway half present whole left_old scaled =>
          have again : left.migrate = _ := File.migrate_of_old left_old scaled
          simp only [again, whole, present, half, not_true_eq_false, false_or, Prod.mk.injEq,
            File.mk.injEq, Option.some.injEq, true_and, and_true]
          exact map_scaled_eq_iff

end Steps

/-- A file of layout 1 is finished by opening it again when its opener has only read the layout, and
not when it has scaled the times. -/
theorem migrate_stoppedAfter_iff_read :
    File.version ⟨some [1], some [⟨"u", "[]", 1700000000⟩]⟩ < currentVersion ∧
      (File.stoppedAfter ⟨some [1], some [⟨"u", "[]", 1700000000⟩]⟩ 2).migrate =
        File.migrate ⟨some [1], some [⟨"u", "[]", 1700000000⟩]⟩ ∧
      (File.stoppedAfter ⟨some [1], some [⟨"u", "[]", 1700000000⟩]⟩ 3).migrate ≠
        File.migrate ⟨some [1], some [⟨"u", "[]", 1700000000⟩]⟩ := by
  have old : File.version ⟨some [1], some [⟨"u", "[]", 1700000000⟩]⟩ < currentVersion := by decide
  rcases migrate_stoppedAfter_iff old with ⟨_, finished⟩
  refine ⟨old, (finished 2).mpr (.inl ?_), fun same => ?_⟩
  · rintro ⟨unscaled, _⟩
    exact unscaled (by decide)
  · rcases (finished 3).mp same with whole | zero
    · exact whole ⟨by decide, by decide⟩
    · exact absurd (zero _ List.mem_cons_self) (by decide)

/-- An opener that stops behind scaling the times leaves layout 1 beside rows in milliseconds, and
opening the file again scales them a second time. -/
theorem stoppedAfter_scales_twice :
    File.version ⟨some [1], some [⟨"u", "[]", 4102444800⟩]⟩ = 1 ∧
      File.stoppedAfter ⟨some [1], some [⟨"u", "[]", 4102444800⟩]⟩ 3 =
        ⟨some [1], some [⟨"u", "[]", 4102444800000⟩]⟩ ∧
      File.migrate ⟨some [1], some [⟨"u", "[]", 4102444800⟩]⟩ =
        (⟨some [2], some [⟨"u", "[]", 4102444800000⟩]⟩, .ok ()) ∧
      File.migrate (File.stoppedAfter ⟨some [1], some [⟨"u", "[]", 4102444800⟩]⟩ 3) =
        (⟨some [2], some [⟨"u", "[]", 4102444800000000⟩]⟩, .ok ()) :=
  ⟨by decide, rfl, rfl, rfl⟩

end LinkGuard.Cache
