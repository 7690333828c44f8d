import LinkGuard.Proofs.Cache.History
import LinkGuard.Proofs.Time.Resolution
import Mathlib.Data.List.Nodup

/-!
# The cache as a map with times

Whatever the history of a cache file is, it answers as a map from links to verdicts in which every
verdict lasts until its expiry in whole milliseconds. Looking up, counting and purging agree on the
very millisecond, since they share the test of a row, and there is one row per link. So as many
rows are counted as links are answered, and a purge is noticed only in times that are over.

The expiry that is read back is the verdict's own, rounded down to whole milliseconds. Leap seconds
are the exception, since whole milliseconds have none. What expires in a leap second is read back
with an expiry in the next second, and with the present for an expiry if there is no next second. And
what a purge in a leap second removes may be missed in the next second.
-/

namespace LinkGuard

/-- The verdict as it is read back at the present, which stands in for the expiry if storing leaves
nothing of that. -/
def Verdict.readBack (verdict : Verdict) (present : Instant) : Verdict :=
  { verdict with expiry := verdict.expiry.rounded?.getD present }

namespace Cache

/-- The table of the file has one row for each verdict that is kept, and no other rows. -/
structure File.Stores (file : File) (rows : List Row) (kept : Verdict → Prop) : Prop where
  table : file.rows = some rows
  distinct : (rows.map Row.url).Nodup
  stored : ∀ row, row ∈ rows ↔ ∃ verdict, kept verdict ∧ row = .ofVerdict verdict
  representable : ∀ verdict, kept verdict → verdict.expiry.IsRepresentable

/-- The verdict is kept for the link, and it is not over in whole milliseconds. -/
structure Lasts (kept : Verdict → Prop) (url : String) (now : Instant) (verdict : Verdict) :
    Prop where
  kept : kept verdict
  url : verdict.url = url
  lasts : now.milliseconds < verdict.expiry.milliseconds

/-- A purge at the instant removes the expired rows and counts them. Nobody can tell who asks at the
instant or later in whole milliseconds. -/
structure File.Purges (file : File) (rows : List Row) (now : Instant) (removed : Nat)
    (purged : File) : Prop where
  done : file.purge now = .ok (removed, purged)
  counted : removed = (rows.filter fun row => row.expiry ≤ now.milliseconds).length
  left : purged.rows = some (rows.filter fun row => now.milliseconds < row.expiry)
  sameFind : ∀ (later present : Instant) (url : String), now.milliseconds ≤ later.milliseconds →
    purged.find url later present = file.find url later present
  sameCount : ∀ later : Instant, now.milliseconds ≤ later.milliseconds →
    purged.count later = file.count later
  /-- That is everyone who asks at the instant or later, unless a purge in a leap second is followed
  by a question in a later second. -/
  later : ∀ later : Instant, now ≤ later → ¬(now.IsLeap ∧ now.seconds < later.seconds) →
    now.milliseconds ≤ later.milliseconds

/-- The file answers as a map from links to verdicts with times, in which are those that are
kept. -/
structure File.IsTimedMap (file : File) (kept : Verdict → Prop) : Prop where
  /-- A link is answered with its verdict while that lasts, -/
  found : ∀ (url : String) (now present : Instant) (found : Verdict),
    file.find url now present = .ok (some found) ↔
      ∃ verdict, Lasts kept url now verdict ∧ found = verdict.readBack present
  /-- and otherwise it is not. -/
  missing : ∀ (url : String) (now present : Instant),
    file.find url now present = .ok none ↔ ¬∃ verdict, Lasts kept url now verdict
  /-- As many rows are counted as links are answered. -/
  counted : ∀ now present : Instant, ∃ urls : List String, urls.Nodup ∧
    (∀ url, url ∈ urls ↔ ∃ found, file.find url now present = .ok (some found)) ∧
    file.count now = .ok urls.length
  /-- A purge removes the rows of the verdicts that are over. -/
  purged : ∃ rows, file.Stores rows kept ∧
    ∀ now : Instant, ∃ removed purged, file.Purges rows now removed purged

section Rows

variable {file : File} {rows : List Row} {row : Row} {url : String} {now present : Instant}

theorem find?_answers_eq_some_iff (distinct : (rows.map Row.url).Nodup) :
    rows.find? (Row.answers url now) = some row ↔
      row ∈ rows ∧ row.url = url ∧ row.isFresh now = true := by
  constructor
  · intro found
    exact ⟨List.mem_of_find?_eq_some found, Row.answers_iff.mp (List.find?_some found)⟩
  · rintro ⟨mem, url_eq, fresh⟩
    cases found : rows.find? (Row.answers url now) with
    | none =>
        have silent := List.find?_eq_none.mp found row mem
        exact absurd (Row.answers_iff.mpr ⟨url_eq, fresh⟩) silent
    | some other =>
        have other_url := (Row.answers_iff.mp (List.find?_some found)).1
        have same := List.inj_on_of_nodup_map distinct (List.mem_of_find?_eq_some found) mem
          (other_url.trans url_eq.symm)
        rw [same]

theorem File.count_eq (table : file.rows = some rows) (now : Instant) :
    file.count now = .ok (rows.filter (Row.isFresh now)).length := by
  simp only [count, table_eq table]
  rfl

/-- What is counted as removed is what has expired. -/
theorem length_sub_fresh (rows : List Row) (now : Instant) :
    rows.length - (rows.filter (Row.isFresh now)).length =
      (rows.filter fun row => row.expiry ≤ now.milliseconds).length := by
  have parts := List.length_eq_length_filter_add (l := rows) (Row.isFresh now)
  have expired : (rows.filter fun row => !row.isFresh now) =
      rows.filter fun row => row.expiry ≤ now.milliseconds := by
    congr 1
    funext row
    rw [Row.isFresh, ← decide_not]
    exact decide_eq_decide.mpr Int.not_lt
  rw [expired] at parts
  omega

theorem File.purges (table : file.rows = some rows) (now : Instant) :
    ∃ removed purged, file.Purges rows now removed purged := by
  refine ⟨rows.length - (rows.filter (Row.isFresh now)).length,
    { file with rows := some (rows.filter (Row.isFresh now)) }, ?_, length_sub_fresh rows now, rfl,
    ?_, ?_, fun _ => Instant.milliseconds_le_of_le⟩
  · simp only [purge, table_eq table]
    rfl
  · intro later present url order
    rw [find_eq table, find_eq rfl, find?_filter_isFresh order]
  · intro later order
    rw [count_eq table, count_eq rfl, List.filter_filter]
    congr 3
    funext row
    cases fresh : row.isFresh later with
    | false => rfl
    | true => exact Row.isFresh_of_le order fresh

end Rows

section Verdicts

variable {file : File} {rows : List Row} {kept : Verdict → Prop} {url : String}
  {now present : Instant}

/-- The row of a verdict is read back, with what storing leaves of the expiry. -/
theorem Row.verdict_eq_readBack {verdict : Verdict}
    (representable : verdict.expiry.IsRepresentable) (present : Instant) :
    (Row.ofVerdict verdict).verdict present = .ok (verdict.readBack present) := by
  have storable := Instant.milliseconds_le_greatestStored representable.latest representable.nanos
  rw [verdict_ofVerdict storable, representable.ofMilliseconds?_milliseconds]
  rfl

namespace File.Stores

theorem find_of_lasts (stores : file.Stores rows kept) {verdict : Verdict}
    (lasts : Lasts kept url now verdict) (present : Instant) :
    file.find url now present = .ok (some (verdict.readBack present)) := by
  rcases lasts with ⟨here, rfl, lasts⟩
  have row_eq : rows.find? (Row.answers verdict.url now) = some (.ofVerdict verdict) :=
    (find?_answers_eq_some_iff stores.distinct).mpr
      ⟨(stores.stored _).mpr ⟨verdict, here, rfl⟩, rfl, Row.isFresh_iff.mpr lasts⟩
  rw [find_eq stores.table, row_eq]
  simp only [Row.verdict_eq_readBack (stores.representable verdict here)]
  rfl

theorem find_of_none_lasts (stores : file.Stores rows kept)
    (unanswered : ¬∃ verdict, Lasts kept url now verdict) (present : Instant) :
    file.find url now present = .ok none := by
  have silent : rows.find? (Row.answers url now) = none := by
    rw [List.find?_eq_none]
    intro row mem answers
    rw [Row.answers_iff, Row.isFresh_iff] at answers
    rcases (stores.stored row).mp mem with ⟨verdict, here, rfl⟩
    exact unanswered ⟨verdict, here, answers.1, answers.2⟩
  rw [find_eq stores.table, silent]

theorem find_eq_some_iff (stores : file.Stores rows kept) {found : Verdict} :
    file.find url now present = .ok (some found) ↔
      ∃ verdict, Lasts kept url now verdict ∧ found = verdict.readBack present := by
  constructor
  · intro found_eq
    by_cases lasting : ∃ verdict, Lasts kept url now verdict
    · rcases lasting with ⟨verdict, lasts⟩
      rw [stores.find_of_lasts lasts present] at found_eq
      cases found_eq
      exact ⟨verdict, lasts, rfl⟩
    · rw [stores.find_of_none_lasts lasting] at found_eq
      cases found_eq
  · rintro ⟨verdict, lasts, rfl⟩
    exact stores.find_of_lasts lasts present

theorem find_eq_none_iff (stores : file.Stores rows kept) :
    file.find url now present = .ok none ↔ ¬∃ verdict, Lasts kept url now verdict := by
  constructor
  · rintro missing ⟨verdict, lasts⟩
    rw [stores.find_of_lasts lasts present] at missing
    cases missing
  · intro unanswered
    exact stores.find_of_none_lasts unanswered present

/-- The links of the rows that are counted are those that are answered. -/
theorem mem_urls_iff (stores : file.Stores rows kept) (present : Instant) :
    url ∈ (rows.filter (Row.isFresh now)).map Row.url ↔
      ∃ found, file.find url now present = .ok (some found) := by
  constructor
  · intro mem
    rcases List.mem_map.mp mem with ⟨row, row_mem, url_eq⟩
    rcases List.mem_filter.mp row_mem with ⟨row_mem, fresh⟩
    rcases (stores.stored row).mp row_mem with ⟨verdict, here, rfl⟩
    exact ⟨_, stores.find_of_lasts ⟨here, url_eq, Row.isFresh_iff.mp fresh⟩ present⟩
  · rintro ⟨found, found_eq⟩
    rcases stores.find_eq_some_iff.mp found_eq with ⟨verdict, ⟨here, url_eq, lasts⟩, _⟩
    apply List.mem_map.mpr
    refine ⟨.ofVerdict verdict, List.mem_filter.mpr ⟨?_, Row.isFresh_iff.mpr lasts⟩, url_eq⟩
    exact (stores.stored _).mpr ⟨verdict, here, rfl⟩

theorem isTimedMap (stores : file.Stores rows kept) : file.IsTimedMap kept where
  found _ _ _ _ := stores.find_eq_some_iff
  missing _ _ _ := stores.find_eq_none_iff
  counted now present := by
    refine ⟨(rows.filter (Row.isFresh now)).map Row.url,
      stores.distinct.sublist (List.filter_sublist.map Row.url),
      fun _ => stores.mem_urls_iff present, ?_⟩
    rw [count_eq stores.table, List.length_map]
  purged := ⟨rows, stores, purges stores.table⟩

end File.Stores

end Verdicts

theorem remains_nil_iff {operations : List Operation} {row : Row} :
    Remains [] operations row ↔
      ∃ verdict, IsKept operations verdict ∧ row = .ofVerdict verdict := by
  rw [Remains]
  simp only [List.not_mem_nil, false_and, false_or]

/-- A file of the current layout that was empty stores what its history has kept. -/
theorem File.stores_performAll {file : File} (current : currentVersion ≤ file.version)
    (table : file.rows = some []) {operations : List Operation}
    (representable : ∀ verdict, .put verdict ∈ operations → verdict.expiry.IsRepresentable) :
    (file.performAll operations).Stores (rowsAfterAll [] operations) (IsKept operations) := by
  have distinct : (([] : List Row).map Row.url).Nodup := List.nodup_nil
  rw [performAll_eq current table]
  refine ⟨rfl, nodup_rowsAfterAll distinct operations, fun row => ?_, ?_⟩
  · exact mem_rowsAfterAll.trans remains_nil_iff
  · rintro verdict ⟨earlier, later, rfl, _⟩
    exact representable verdict (List.mem_append_right _ List.mem_cons_self)

/-- A new cache file answers as a map in which are the verdicts that its history has kept: each was
the last to be put for its link, and no purge since was at its expiry or later. -/
theorem performAll_isTimedMap (operations : List Operation)
    (representable : ∀ verdict, .put verdict ∈ operations → verdict.expiry.IsRepresentable) :
    ∃ opened, ({} : File).migrate = (opened, .ok ()) ∧
      (opened.performAll operations).IsTimedMap (IsKept operations) :=
  ⟨⟨some [currentVersion], some []⟩, rfl,
    (File.stores_performAll (by decide) rfl representable).isTimedMap⟩

/-- A verdict is found in the last millisecond before that of its expiry, after a verdict for
another link, which expires in the last leap second, and a purge. -/
theorem performAll_isTimedMap_malware :
    (∀ verdict, .put verdict ∈ [Operation.put ⟨"u", [.malware], ⟨10, 1500000⟩⟩,
        .put ⟨"v", [], ⟨Instant.latestSecond, 1000000000⟩⟩, .purge ⟨10, 999999⟩] →
          verdict.expiry.IsRepresentable) ∧
      ∃ opened, ({} : File).migrate = (opened, .ok ()) ∧
        (opened.performAll [.put ⟨"u", [.malware], ⟨10, 1500000⟩⟩,
          .put ⟨"v", [], ⟨Instant.latestSecond, 1000000000⟩⟩, .purge ⟨10, 999999⟩]).find
            "u" ⟨10, 999999⟩ ⟨0, 0⟩ = .ok (some ⟨"u", [.malware], ⟨10, 1000000⟩⟩) := by
  have representable : ∀ verdict, .put verdict ∈ [Operation.put ⟨"u", [.malware], ⟨10, 1500000⟩⟩,
      .put ⟨"v", [], ⟨Instant.latestSecond, 1000000000⟩⟩, .purge ⟨10, 999999⟩] →
        verdict.expiry.IsRepresentable := by
    intro verdict mem
    simp only [List.mem_cons, Operation.put.injEq, reduceCtorEq, List.not_mem_nil, or_false] at mem
    rcases mem with rfl | rfl
    · exact ⟨by decide, by decide, by decide⟩
    · exact ⟨by decide, by decide, by decide⟩
  rcases performAll_isTimedMap _ representable with ⟨opened, opened_eq, map⟩
  refine ⟨representable, opened, opened_eq, (map.found _ _ _ _).mpr
    ⟨⟨"u", [.malware], ⟨10, 1500000⟩⟩, ⟨⟨[], _, rfl, ?_⟩, rfl, by decide⟩, rfl⟩⟩
  intro operation mem
  simp only [List.mem_cons, List.not_mem_nil, or_false] at mem
  rcases mem with rfl | rfl
  · exact (by decide : "v" ≠ "u")
  · exact (by decide : Instant.milliseconds ⟨10, 999999⟩ < Instant.milliseconds ⟨10, 1500000⟩)

/-- In leap seconds an expiry is not read back rounded down. In the last of them it is read back as
the present, in others as a later instant of the next second. And a purge in a leap second is noticed
in the next second, from which it has removed what was not over. -/
theorem performAll_leapSecond :
    ∃ opened, ({} : File).migrate = (opened, .ok ()) ∧
      (Instant.IsRepresentable ⟨Instant.latestSecond, 1000000000⟩ ∧ ∀ present,
        (opened.performAll [.put ⟨"u", [], ⟨Instant.latestSecond, 1000000000⟩⟩]).find
          "u" ⟨0, 0⟩ present = .ok (some ⟨"u", [], present⟩)) ∧
      ((⟨4102444799, 1500000000⟩ : Instant) < ⟨4102444800, 500000000⟩ ∧ ∀ present,
        (opened.performAll [.put ⟨"u", [], ⟨4102444799, 1500000000⟩⟩]).find
          "u" ⟨0, 0⟩ present = .ok (some ⟨"u", [], ⟨4102444800, 500000000⟩⟩)) ∧
      (⟨4102444799, 1600000000⟩ : Instant) < ⟨4102444800, 400000000⟩ ∧ ∀ present,
        (opened.performAll [.put ⟨"u", [], ⟨4102444800, 500000000⟩⟩]).find
          "u" ⟨4102444800, 400000000⟩ present = .ok (some ⟨"u", [], ⟨4102444800, 500000000⟩⟩) ∧
        (opened.performAll [.put ⟨"u", [], ⟨4102444800, 500000000⟩⟩,
          .purge ⟨4102444799, 1600000000⟩]).find "u" ⟨4102444800, 400000000⟩ present = .ok none := by
  refine ⟨⟨some [currentVersion], some []⟩, rfl, ⟨⟨by decide, by decide, by decide⟩, ?_⟩,
    ⟨Instant.lt_iff.mpr (by decide), ?_⟩, Instant.lt_iff.mpr (by decide), ?_⟩
  · exact fun _ => rfl
  · exact fun _ => rfl
  · exact fun _ => ⟨rfl, rfl⟩

end Cache

end LinkGuard
