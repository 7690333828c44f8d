import LinkGuard.Cache.Migration
import LinkGuard.Proofs.Cache.Table

/-!
# Histories of a cache file

While a cache file is open, verdicts are put into it, looked up and counted, and what has expired is
purged, at instants that need not be in order. Meanwhile the file may be opened again, by others as
well. What its table has in the end can be told from the history alone: the rows that were there and
were spared by all operations, and of the verdicts that were put those that were spared since.

Only a file that has the current layout or a later one is considered here, so that opening it again
has nothing to do.
-/

namespace LinkGuard.Cache

/-- What can be done with an open cache file. -/
inductive Operation where
  | put (verdict : Verdict)
  | find (url : String) (now present : Instant)
  | count (now : Instant)
  | purge (now : Instant)
  | reopen

/-- The file after an operation. One that fails leaves the file as it is, and so do those that only
read. -/
def File.perform (file : File) : Operation → File
  | .put verdict => (file.put verdict).toOption.getD file
  | .purge now => ((file.purge now).toOption.map Prod.snd).getD file
  | .reopen => file.migrate.1
  | .find _ _ _ => file
  | .count _ => file

/-- The file after operations, in order. -/
def File.performAll (file : File) (operations : List Operation) : File :=
  operations.foldl File.perform file

/-- The operation neither replaces the row nor removes it. -/
def Operation.Spares (row : Row) : Operation → Prop
  | put verdict => verdict.url ≠ row.url
  | purge now => now.milliseconds < row.expiry
  | find _ _ _ => True
  | count _ => True
  | reopen => True

/-- The verdict has been put, and what it was stored as has been spared since. -/
def IsKept (operations : List Operation) (verdict : Verdict) : Prop :=
  ∃ earlier later, operations = earlier ++ .put verdict :: later ∧
    ∀ operation ∈ later, operation.Spares (.ofVerdict verdict)

/-- The row is in the table after the operations, if these are the rows before. -/
def Remains (rows : List Row) (operations : List Operation) (row : Row) : Prop :=
  (row ∈ rows ∧ ∀ operation ∈ operations, operation.Spares row) ∨
    ∃ verdict, IsKept operations verdict ∧ row = .ofVerdict verdict

section Step

variable {file : File} {rows : List Row} {row : Row}

/-- A file of the current layout or a later one is opened as it is. -/
theorem File.migrate_of_current (current : currentVersion ≤ file.version) :
    file.migrate = (file, .ok ()) := by
  rcases file with ⟨versions, rows⟩
  cases versions with
  | none =>
      have unrecorded : File.version ⟨none, rows⟩ = 0 := rfl
      rw [unrecorded] at current
      exact absurd current (by decide)
  | some versions =>
      change Statement.runAll _ (pending (File.version ⟨some versions, rows⟩)) = _
      rw [pending, if_neg (Int.not_lt.mpr current)]
      rfl

/-- The rows that an operation leaves in the table. -/
def Operation.rowsAfter (rows : List Row) : Operation → List Row
  | put verdict => replaceRow (.ofVerdict verdict) rows
  | purge now => rows.filter (Row.isFresh now)
  | find _ _ _ => rows
  | count _ => rows
  | reopen => rows

theorem File.perform_eq (current : currentVersion ≤ file.version) (table : file.rows = some rows)
    (operation : Operation) :
    file.perform operation = { file with rows := some (operation.rowsAfter rows) } := by
  have unchanged : file = { file with rows := some rows } := by
    rw [← table]
  cases operation with
  | put verdict =>
      rw [perform, put_eq table]
      rfl
  | purge now =>
      simp only [perform, purge, table_eq table]
      rfl
  | reopen =>
      rw [perform, migrate_of_current current]
      exact unchanged
  | find url now present => exact unchanged
  | count now => exact unchanged

theorem Operation.mem_rowsAfter {operation : Operation} :
    row ∈ operation.rowsAfter rows ↔
      (row ∈ rows ∧ operation.Spares row) ∨
        ∃ verdict, operation = .put verdict ∧ row = .ofVerdict verdict := by
  cases operation with
  | put verdict =>
      simp only [rowsAfter, replaceRow, List.mem_cons, List.mem_filter, Spares, put.injEq,
        exists_eq_left', decide_eq_true_eq]
      rw [or_comm, ne_comm]
      rfl
  | purge now =>
      simp only [rowsAfter, List.mem_filter, Spares, Row.isFresh_iff, reduceCtorEq, false_and,
        exists_false, or_false]
  | find url now present => simp [rowsAfter, Spares]
  | count now => simp [rowsAfter, Spares]
  | reopen => simp [rowsAfter, Spares]

/-- The table keeps one row per link. -/
theorem Operation.nodup_rowsAfter (distinct : (rows.map Row.url).Nodup) (operation : Operation) :
    ((operation.rowsAfter rows).map Row.url).Nodup := by
  have sublist (keep : Row → Bool) : ((rows.filter keep).map Row.url).Nodup :=
    distinct.sublist (List.filter_sublist.map Row.url)
  cases operation with
  | put verdict =>
      rw [rowsAfter, replaceRow, List.map_cons, List.nodup_cons]
      refine ⟨?_, sublist _⟩
      intro mem
      rcases List.mem_map.mp mem with ⟨row, row_mem, url_eq⟩
      exact of_decide_eq_true (List.mem_filter.mp row_mem).2 url_eq
  | purge now => exact sublist _
  | find url now present => exact distinct
  | count now => exact distinct
  | reopen => exact distinct

end Step

section Run

variable {file : File} {rows : List Row} {row : Row} {operations : List Operation}

/-- The rows that operations leave in the table. -/
def rowsAfterAll (rows : List Row) (operations : List Operation) : List Row :=
  operations.foldl Operation.rowsAfter rows

theorem File.performAll_eq (current : currentVersion ≤ file.version)
    (table : file.rows = some rows) (operations : List Operation) :
    file.performAll operations = { file with rows := some (rowsAfterAll rows operations) } := by
  induction operations generalizing file rows with
  | nil =>
      change file = { file with rows := some rows }
      rw [← table]
  | cons operation operations ih =>
      have step := perform_eq current table operation
      change (file.perform operation).performAll operations = _
      rw [step]
      exact ih current rfl

theorem nodup_rowsAfterAll (distinct : (rows.map Row.url).Nodup) (operations : List Operation) :
    ((rowsAfterAll rows operations).map Row.url).Nodup := by
  induction operations generalizing rows with
  | nil => exact distinct
  | cons operation operations ih => exact ih (operation.nodup_rowsAfter distinct)

theorem isKept_cons {operation : Operation} {verdict : Verdict} :
    IsKept (operation :: operations) verdict ↔
      (operation = .put verdict ∧ ∀ later ∈ operations, later.Spares (.ofVerdict verdict)) ∨
        IsKept operations verdict := by
  constructor
  · rintro ⟨earlier, later, split_eq, spared⟩
    cases earlier with
    | nil =>
        rcases List.cons.inj split_eq with ⟨rfl, rfl⟩
        exact .inl ⟨rfl, spared⟩
    | cons first earlier =>
        rcases List.cons.inj split_eq with ⟨rfl, rfl⟩
        exact .inr ⟨earlier, later, rfl, spared⟩
  · rintro (⟨rfl, spared⟩ | ⟨earlier, later, rfl, spared⟩)
    · exact ⟨[], operations, rfl, spared⟩
    · exact ⟨operation :: earlier, later, rfl, spared⟩

/-- What remains after one operation and then others remains after all of them. -/
theorem remains_cons {operation : Operation} :
    Remains rows (operation :: operations) row ↔
      Remains (operation.rowsAfter rows) operations row := by
  simp only [Remains, Operation.mem_rowsAfter, isKept_cons, List.forall_mem_cons]
  constructor
  · rintro (⟨mem, spares, spared⟩ | ⟨verdict, ⟨rfl, spared⟩ | kept, rfl⟩)
    · exact .inl ⟨.inl ⟨mem, spares⟩, spared⟩
    · exact .inl ⟨.inr ⟨verdict, rfl, rfl⟩, spared⟩
    · exact .inr ⟨verdict, kept, rfl⟩
  · rintro (⟨⟨mem, spares⟩ | ⟨verdict, rfl, rfl⟩, spared⟩ | ⟨verdict, kept, rfl⟩)
    · exact .inl ⟨mem, spares, spared⟩
    · exact .inr ⟨verdict, .inl ⟨rfl, spared⟩, rfl⟩
    · exact .inr ⟨verdict, .inr kept, rfl⟩

/-- The table has the rows that remain, and no others. -/
theorem mem_rowsAfterAll : row ∈ rowsAfterAll rows operations ↔ Remains rows operations row := by
  induction operations generalizing rows with
  | nil => simp [rowsAfterAll, Remains, IsKept]
  | cons operation operations ih => exact ih.trans remains_cons.symm

end Run

end LinkGuard.Cache
