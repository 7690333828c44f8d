import LinkGuard.Proofs.Cache.TimedMap

/-!
# Old rows are converted once

Turning seconds into milliseconds cannot be done twice, so it depends on the recorded layout alone
whether an opening does it. The first opening of an old file records the current layout behind it.
Nothing that is done with the open file takes this record back, so all later openings leave the rows
as they are, old ones and those that have been put since.

The layout is recorded as a 32-bit integer. A record that is none is not read, and then the file is
taken for an old one.
-/

namespace LinkGuard.Cache

/-- The rows of an old file are converted when it is opened and never again, whatever is done with
it. -/
structure File.ConvertsOnce (file : File) (rows : List Row) : Prop where
  /-- Opening the file keeps the links and threats, and makes the times milliseconds. -/
  opened : file.migrate.2 = .ok () ∧ file.migrate.1.rows =
    some (rows.map fun row => ⟨row.url, row.threats, row.expiry * 1000⟩)
  /-- Every later opening leaves the file as it is. -/
  reopened : ∀ operations : List Operation,
    (file.migrate.1.performAll operations).migrate =
      (file.migrate.1.performAll operations, .ok ())
  /-- No row is lost or doubled. -/
  remaining : ∀ operations : List Operation, ∃ left : List Row,
    (file.migrate.1.performAll operations).rows = some left ∧ (left.map Row.url).Nodup ∧
      ∀ row, row ∈ left ↔ Remains (rows.map Row.scaled) operations row
  /-- An old row that is spared is found until its time in milliseconds. -/
  found : ∀ (operations : List Operation), ∀ row ∈ rows,
    (∀ operation ∈ operations, operation.Spares row.scaled) →
      ∀ threats, readThreats row.threats = .ok threats → ∀ now present : Instant,
        (file.migrate.1.performAll operations).find row.url now present =
          if now.milliseconds < row.expiry * 1000 then
            .ok (some ⟨row.url, threats, ⟨row.expiry, 0⟩⟩)
          else .ok none

section Old

variable {file : File} {rows : List Row} {row : Row}

/-- A record that is a 32-bit integer is read as it is. -/
theorem File.version_of_recorded {number : Int} {others : List Int}
    (recorded : file.versions = some (number :: others)) (low : -Nat.pow 2 31 ≤ number)
    (high : number < Nat.pow 2 31) : file.version = number := by
  have kept : Int.bmod number (Nat.pow 2 32) = number := by
    apply Int.bmod_eq_of_le_mul_two
    · simp only [Nat.pow_eq] at low ⊢
      omega
    · simp only [Nat.pow_eq] at high ⊢
      omega
  simp only [File.version, recorded, Option.getD_some, List.head?_cons, kept, if_true]

theorem File.migrate_of_old (old : file.version < currentVersion) (table : file.rows = some rows) :
    file.migrate = (⟨some [currentVersion], some (rows.map Row.scaled)⟩, .ok ()) := by
  rcases file with ⟨versions, _⟩
  cases table
  have recorded : File.version ⟨some (versions.getD []), some rows⟩ =
      File.version ⟨versions, some rows⟩ := by
    cases versions <;> rfl
  change Statement.runAll _ (pending (File.version ⟨some (versions.getD []), some rows⟩)) = _
  rw [recorded, pending, if_pos old]
  -- Before layout 1 the table and its index are created first, but the table is there already.
  split
  case isTrue => rfl
  case isFalse => rfl

/-- A converted row is read back with the second that it had. -/
theorem Row.verdict_scaled {threats : List Threat}
    (representable : Instant.isRepresentable row.expiry = true)
    (threats_eq : readThreats row.threats = .ok threats) (present : Instant) :
    row.scaled.verdict present = .ok ⟨row.url, threats, ⟨row.expiry, 0⟩⟩ := by
  have second_eq : row.expiry * 1000 / 1000 = row.expiry := Int.mul_ediv_cancel _ (by decide)
  have rest_eq : row.expiry * 1000 % 1000 = 0 := Int.mul_emod_left _ _
  have instant_eq : Instant.ofMilliseconds? (row.expiry * 1000) = some ⟨row.expiry, 0⟩ := by
    simp only [Instant.ofMilliseconds?, second_eq, rest_eq, representable, if_true]
    rfl
  have inRange : ¬greatestStored < row.expiry * 1000 := by
    have late : row.expiry ≤ Instant.latestSecond := by
      rw [Instant.isRepresentable, Bool.and_eq_true, decide_eq_true_eq, decide_eq_true_eq]
        at representable
      exact representable.2
    have enough : Instant.latestSecond * 1000 ≤ greatestStored := by decide
    omega
  simp only [verdict, scaled, if_neg inRange, threats_eq, instant_eq]
  rfl

/-- A row answers for its link as long as it is fresh, and no other row does. -/
theorem find?_answers_of_mem {now : Instant} (distinct : (rows.map Row.url).Nodup)
    (mem : row ∈ rows) :
    rows.find? (Row.answers row.url now) = if row.isFresh now then some row else none := by
  split
  case isTrue fresh => exact (find?_answers_eq_some_iff distinct).mpr ⟨mem, rfl, fresh⟩
  case isFalse stale =>
    rw [Option.eq_none_iff_forall_ne_some]
    intro other found
    rcases (find?_answers_eq_some_iff distinct).mp found with ⟨other_mem, url_eq, fresh⟩
    rw [List.inj_on_of_nodup_map distinct other_mem mem url_eq] at fresh
    exact stale fresh

theorem File.convertsOnce (table : file.rows = some rows) (distinct : (rows.map Row.url).Nodup)
    (representable : ∀ row ∈ rows, Instant.isRepresentable row.expiry = true)
    (old : file.version < currentVersion) : file.ConvertsOnce rows := by
  have current (rows : List Row) :
      currentVersion ≤ File.version ⟨some [currentVersion], some rows⟩ := by
    change currentVersion ≤ File.version ⟨some [currentVersion], none⟩
    decide
  have after (operations : List Operation) : file.migrate.1.performAll operations =
      ⟨some [currentVersion], some (rowsAfterAll (rows.map Row.scaled) operations)⟩ := by
    rw [migrate_of_old old table]
    exact performAll_eq (current _) rfl operations
  have distinct_after (operations : List Operation) :
      ((rowsAfterAll (rows.map Row.scaled) operations).map Row.url).Nodup := by
    apply nodup_rowsAfterAll
    rw [List.map_map]
    exact distinct
  refine ⟨?_, fun operations => ?_, fun operations => ?_,
    fun operations row mem spared threats threats_eq now present => ?_⟩
  · rw [migrate_of_old old table]
    exact ⟨rfl, rfl⟩
  · rw [after]
    exact migrate_of_current (current _)
  · rw [after]
    exact ⟨_, rfl, distinct_after operations, fun row => mem_rowsAfterAll⟩
  · have scaled_mem : row.scaled ∈ rowsAfterAll (rows.map Row.scaled) operations :=
      mem_rowsAfterAll.mpr (.inl ⟨List.mem_map_of_mem mem, spared⟩)
    have answered : (rowsAfterAll (rows.map Row.scaled) operations).find?
        (Row.answers row.url now) = if row.scaled.isFresh now then some row.scaled else none :=
      find?_answers_of_mem (distinct_after operations) scaled_mem
    rw [after, find_eq rfl, answered]
    by_cases lasts : now.milliseconds < row.expiry * 1000
    · rw [if_pos (Row.isFresh_iff.mpr lasts), if_pos lasts]
      simp only [Row.verdict_scaled (representable row mem) threats_eq]
      rfl
    · rw [if_neg fun fresh => lasts (Row.isFresh_iff.mp fresh), if_neg lasts]

end Old

/-- An old file is converted by the first opening and by no other, and a file whose record is a
32-bit integer from the current layout on is opened as it is. -/
theorem migrate_converts_once :
    (∀ (file : File) (rows : List Row), file.rows = some rows → (rows.map Row.url).Nodup →
      (∀ row ∈ rows, Instant.isRepresentable row.expiry = true) →
        file.version < currentVersion → file.ConvertsOnce rows) ∧
    ∀ (file : File) (version : Int) (others : List Int), file.versions = some (version :: others) →
      currentVersion ≤ version → version < Nat.pow 2 31 → file.migrate = (file, .ok ()) := by
  refine ⟨fun file rows table distinct representable old =>
    File.convertsOnce table distinct representable old,
    fun file version others recorded current inRange => ?_⟩
  have low : (0 : Int) ≤ currentVersion := by decide
  apply File.migrate_of_current
  rw [File.version_of_recorded recorded (by omega) inRange]
  exact current

/-- A row without threats is converted by the first opening of a file of layout 1, and still lasts
after a verdict has been put and the file been opened again. -/
theorem migrate_converts_once_second :
    File.migrate ⟨some [1], some [⟨"u", "[]", 1700000000⟩]⟩ =
        (⟨some [2], some [⟨"u", "[]", 1700000000000⟩]⟩, .ok ()) ∧
      ((File.migrate ⟨some [1], some [⟨"u", "[]", 1700000000⟩]⟩).1.performAll
        [.put ⟨"v", [.malware], ⟨5, 0⟩⟩, .reopen]).find "u" ⟨1699999999, 999000000⟩ ⟨0, 0⟩ =
          .ok (some ⟨"u", [], ⟨1700000000, 0⟩⟩) ∧
      File.migrate ⟨some [3], some [⟨"u", "[]", 1700000000000⟩]⟩ =
        (⟨some [3], some [⟨"u", "[]", 1700000000000⟩]⟩, .ok ()) := by
  have once := migrate_converts_once.1 ⟨some [1], some [⟨"u", "[]", 1700000000⟩]⟩ _ rfl
    (List.nodup_singleton "u") (by decide) (by decide)
  have spared : ∀ operation ∈ [Operation.put ⟨"v", [.malware], ⟨5, 0⟩⟩, .reopen],
      operation.Spares ⟨"u", "[]", 1700000000000⟩ := by
    intro operation mem
    simp only [List.mem_cons, List.not_mem_nil, or_false] at mem
    rcases mem with rfl | rfl
    · exact (by decide : "v" ≠ "u")
    · trivial
  have found := once.found _ ⟨"u", "[]", 1700000000⟩ List.mem_cons_self spared []
    (readThreats_listToJson []) ⟨1699999999, 999000000⟩ ⟨0, 0⟩
  refine ⟨rfl, ?_, migrate_converts_once.2 _ 3 [] rfl (by decide) (by decide)⟩
  rw [found, if_pos (by decide)]

/-- A record beyond 32 bits is taken for none, and rows in milliseconds are converted again. -/
theorem migrate_converts_twice :
    ∃ (file : File) (version : Int), file.versions = some [version] ∧ currentVersion ≤ version ∧
      file.rows = some [⟨"u", "[]", 4102444800000⟩] ∧
      file.migrate.1.rows = some [⟨"u", "[]", 4102444800000000⟩] :=
  ⟨⟨some [2147483648], some [⟨"u", "[]", 4102444800000⟩]⟩, 2147483648, rfl, by decide, rfl, rfl⟩

end LinkGuard.Cache
