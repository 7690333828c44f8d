import LinkGuard.Proofs.Cache.TimedMap
import LinkGuard.Proofs.Time.Resolution

/-!
# Freshness of what is stored

A verdict says to the nanosecond until when it holds, its row only to the whole millisecond. So the
cache looks at whole milliseconds where the verdict itself would be asked for nanoseconds, and reads
back an expiry that is less than a millisecond earlier. What is found holds by both, and what is not
found any more has less than a millisecond left.

A verdict that expires in a leap second is the exception. Whole milliseconds do not tell a leap
second from the second behind it, so that such a verdict is found on into this second, where it is
not fresh itself. Likewise what expires in the second behind is given up in the leap second already.
-/

namespace LinkGuard

/-- The first verdict is the second but for its expiry, of which it has the whole milliseconds. -/
structure Verdict.Rounds (rounded verdict : Verdict) : Prop where
  url : rounded.url = verdict.url
  threats : rounded.threats = verdict.threats
  expiry : rounded.expiry.Rounds verdict.expiry

theorem Verdict.Rounds.unique {verdict rounded other : Verdict} (first : rounded.Rounds verdict)
    (second : other.Rounds verdict) : rounded = other := by
  have url := first.url.trans second.url.symm
  have threats := first.threats.trans second.threats.symm
  have expiry := first.expiry.unique second.expiry
  cases rounded
  cases other
  simp only at url threats expiry
  rw [url, threats, expiry]

theorem Verdict.Rounds.readBack_eq {verdict served : Verdict}
    (inRange : verdict.expiry.InRange) (rounds : served.Rounds verdict) (present : Instant) :
    verdict.readBack present = served := by
  rw [Verdict.readBack, inRange.rounded?_eq rounds.expiry, ← rounds.url, ← rounds.threats]
  rfl

namespace Cache

/-- For the link of a verdict the file serves what storing the verdict in whole milliseconds leaves
of it. -/
structure File.Serves (file : File) (verdict served : Verdict) : Prop where
  /-- It is found while the expiry lies ahead in whole milliseconds, whatever the present is. -/
  find : ∀ now present : Instant, file.find verdict.url now present =
    .ok (if now.milliseconds < verdict.expiry.milliseconds then some served else none)
  rounds : served.Rounds verdict
  /-- The stored expiry is read back, so that the present never stands in for it. -/
  readBack : ∀ rows, file.rows = some rows → ∀ row ∈ rows, row.url = verdict.url →
    Instant.ofMilliseconds? row.expiry = some served.expiry
  /-- The expiry is moved to an earlier instant, unless it lay in a leap second, -/
  earlier : served.expiry ≤ verdict.expiry ↔ ¬verdict.expiry.IsLeap
  /-- and by less than a millisecond. -/
  close : verdict.expiry < served.expiry.plus Instant.nanosPerMillisecond
  /-- What is found is fresh, -/
  servedFresh : ∀ now : Instant, now.milliseconds < verdict.expiry.milliseconds →
    served.isFresh now = true
  /-- and so is the verdict itself, but not in the second behind a leap second. -/
  verdictFresh : ∀ now : Instant, now.milliseconds < verdict.expiry.milliseconds →
    (verdict.isFresh now = true ↔
      ¬(verdict.expiry.IsLeap ∧ verdict.expiry.seconds < now.seconds))
  /-- What is not found ends within a millisecond, unless a leap second of an earlier second is
  asked about. -/
  lost : ∀ now : Instant, verdict.expiry.milliseconds ≤ now.milliseconds →
    ¬(now.IsLeap ∧ now.seconds < verdict.expiry.seconds) →
      verdict.expiry < now.plus Instant.nanosPerMillisecond
  /-- In elapsed nanoseconds there is no exception. -/
  elapsedClose : served.expiry.elapsed ≤ verdict.expiry.elapsed ∧
    verdict.expiry.elapsed < served.expiry.elapsed + Instant.nanosPerMillisecond
  elapsedLost : ∀ now : Instant, verdict.expiry.milliseconds ≤ now.milliseconds →
    verdict.expiry.elapsed < now.elapsed + Instant.nanosPerMillisecond

variable {file : File} {rows : List Row} {verdict served : Verdict}

theorem Row.verdict_eq_of_rounds (inRange : verdict.expiry.InRange)
    (rounds : served.Rounds verdict) (present : Instant) :
    (Row.ofVerdict verdict).verdict present = .ok served := by
  rw [verdict_eq_readBack inRange.toIsRepresentable, rounds.readBack_eq inRange]

/-- A link is answered by the row that took the place of the others. -/
theorem File.find_of_replaceRow
    (table : file.rows = some (replaceRow (.ofVerdict verdict) rows))
    (inRange : verdict.expiry.InRange) (rounds : served.Rounds verdict) (now present : Instant) :
    file.find verdict.url now present =
      .ok (if now.milliseconds < verdict.expiry.milliseconds then some served else none) := by
  have answer_eq : (replaceRow (.ofVerdict verdict) rows).find? (Row.answers verdict.url now) =
      if (Row.ofVerdict verdict).isFresh now then some (.ofVerdict verdict) else none :=
    find?_replaceRow_same
  have fresh_iff : (Row.ofVerdict verdict).isFresh now = true ↔
      now.milliseconds < verdict.expiry.milliseconds :=
    Row.isFresh_iff
  rw [find_eq table, answer_eq]
  by_cases ahead : now.milliseconds < verdict.expiry.milliseconds
  · simp only [fresh_iff.mpr ahead, ahead, if_true, Row.verdict_eq_of_rounds inRange rounds]
    rfl
  · have expired : (Row.ofVerdict verdict).isFresh now = false :=
      Bool.eq_false_iff.mpr (ahead ∘ fresh_iff.mp)
    simp only [expired, ahead, Bool.false_eq_true, if_false]

/-- There is no other row for the link. -/
theorem eq_ofVerdict_of_mem_replaceRow {row : Row}
    (mem : row ∈ replaceRow (.ofVerdict verdict) rows) (isLink : row.url = verdict.url) :
    row = .ofVerdict verdict := by
  have kept : row ∈ (replaceRow (.ofVerdict verdict) rows).filter
      (fun other => other.url = verdict.url) :=
    List.mem_filter.mpr ⟨mem, decide_eq_true isLink⟩
  have same : (Row.ofVerdict verdict).url = verdict.url := rfl
  rw [filter_replaceRow, if_pos same] at kept
  exact List.mem_singleton.mp kept

theorem File.serves_of_replaceRow
    (table : file.rows = some (replaceRow (.ofVerdict verdict) rows))
    (inRange : verdict.expiry.InRange) (rounds : served.Rounds verdict) :
    file.Serves verdict served where
  find := find_of_replaceRow table inRange rounds
  rounds := rounds
  readBack := by
    intro rows' table' row mem isLink
    rw [table, Option.some.injEq] at table'
    subst table'
    rw [eq_ofVerdict_of_mem_replaceRow mem isLink]
    exact inRange.ofMilliseconds?_milliseconds.trans (inRange.rounded?_eq rounds.expiry)
  earlier := rounds.expiry.le_iff
  close := rounds.expiry.lt_plus
  servedFresh now ahead := by
    have ahead : now.milliseconds < served.expiry.milliseconds := by
      rwa [rounds.expiry.same]
    rw [Verdict.isFresh, Instant.before_iff_lt, Instant.lt_iff_of_milliseconds_lt ahead]
    exact fun leap => rounds.expiry.not_isLeap leap.1
  verdictFresh now ahead := by
    rw [Verdict.isFresh, Instant.before_iff_lt]
    exact Instant.lt_iff_of_milliseconds_lt ahead
  lost _ ended aligned := Instant.lt_plus_of_milliseconds_le ended aligned
  elapsedClose :=
    ⟨rounds.expiry.elapsed_le, Instant.elapsed_lt_of_milliseconds_le rounds.expiry.same.ge⟩
  elapsedLost _ ended := Instant.elapsed_lt_of_milliseconds_le ended

theorem File.exists_put (table : file.rows = some rows) (inRange : verdict.expiry.InRange)
    (rounds : served.Rounds verdict) :
    ∃ stored, file.put verdict = .ok stored ∧ stored.Serves verdict served :=
  ⟨_, put_eq table verdict, serves_of_replaceRow rfl inRange rounds⟩

/-- Whatever a file holds, a verdict that is put into it is served from then on as far as whole
milliseconds can tell. Only a file without its table refuses it. -/
theorem File.put_serves (file : File) {verdict : Verdict} (inRange : verdict.expiry.InRange) :
    (file.rows = none ∧ file.put verdict = .error .database) ∨
      ∃ stored served, file.put verdict = .ok stored ∧ stored.Serves verdict served := by
  cases table : file.rows with
  | none => exact .inl ⟨rfl, put_of_none table verdict⟩
  | some rows =>
      -- What is served is fixed before the present is, so the present cannot be a part of it.
      rcases inRange.exists_rounds with ⟨expiry, _, rounds⟩
      have served_rounds : Verdict.Rounds ⟨verdict.url, verdict.threats, expiry⟩ verdict :=
        ⟨rfl, rfl, rounds⟩
      rcases exists_put table inRange served_rounds with ⟨stored, stored_eq, serves⟩
      exact .inr ⟨stored, _, stored_eq, serves⟩

/-- A verdict that holds until the last nanosecond before 1970 takes the place of an older one. It
is served for all but the last millisecond, in which it still holds itself. -/
theorem File.put_serves_before1970 :
    let file : File := ⟨some [2], some [⟨"u", "[]", 5000⟩, ⟨"v", "?", 7000⟩]⟩
    let verdict : Verdict := ⟨"u", [.malware], ⟨-1, 999999999⟩⟩
    verdict.expiry.InRange ∧ ∃ stored, file.put verdict = .ok stored ∧
      (∀ present, stored.find "u" ⟨-1, 998999999⟩ present =
        .ok (some ⟨"u", [.malware], ⟨-1, 999000000⟩⟩)) ∧
      (∀ present, stored.find "u" ⟨-1, 999000000⟩ present = .ok none) ∧
      verdict.isFresh ⟨-1, 999000000⟩ = true := by
  intro file verdict
  have inRange : verdict.expiry.InRange := ⟨⟨by decide, by decide, by decide⟩, by decide⟩
  have expected : Verdict.Rounds ⟨"u", [.malware], ⟨-1, 999000000⟩⟩ verdict :=
    ⟨rfl, rfl, by decide, by decide, by decide⟩
  rcases File.put_serves file inRange with ⟨gone, _⟩ | ⟨stored, served, stored_eq, serves⟩
  · cases gone
  · rw [serves.rounds.unique expected] at serves
    refine ⟨inRange, stored, stored_eq, fun present => ?_, fun present => ?_, by decide⟩
    · exact (serves.find _ present).trans (congrArg Except.ok (if_pos (by decide)))
    · exact (serves.find _ present).trans (congrArg Except.ok (if_neg (by decide)))

/-- In leap seconds whole milliseconds and nanoseconds part. A verdict that expires in one is found
in the second behind it, with a later expiry, when it has expired itself. One that expires in this
second is not found in the leap second any more, though more than a millisecond is left of it. -/
theorem File.find_put_leapSecond :
    let file : File := ⟨some [2], some []⟩
    let leap : Verdict := ⟨"u", [], ⟨4102444799, 1500000000⟩⟩
    let behind : Verdict := ⟨"u", [], ⟨4102444800, 500000000⟩⟩
    (leap.expiry.InRange ∧ ∃ stored, file.put leap = .ok stored ∧
      (∀ present, stored.find "u" ⟨4102444800, 400000000⟩ present = .ok (some behind)) ∧
      ¬behind.expiry ≤ leap.expiry ∧ leap.isFresh ⟨4102444800, 400000000⟩ = false) ∧
    behind.expiry.InRange ∧ ∃ stored, file.put behind = .ok stored ∧
      (∀ present, stored.find "u" ⟨4102444799, 1600000000⟩ present = .ok none) ∧
      ¬behind.expiry < Instant.plus ⟨4102444799, 1600000000⟩ Instant.nanosPerMillisecond := by
  intro file leap behind
  have leapInRange : leap.expiry.InRange := ⟨⟨by decide, by decide, by decide⟩, by decide⟩
  have behindInRange : behind.expiry.InRange := ⟨⟨by decide, by decide, by decide⟩, by decide⟩
  have leapRounds : behind.Rounds leap := ⟨rfl, rfl, by decide, by decide, by decide⟩
  have behindRounds : behind.Rounds behind := ⟨rfl, rfl, by decide, by decide, by decide⟩
  have table : file.rows = some [] := rfl
  constructor
  · rcases exists_put table leapInRange leapRounds with ⟨stored, stored_eq, serves⟩
    refine ⟨leapInRange, stored, stored_eq, fun present => ?_, ?_, by decide⟩
    · exact (serves.find _ present).trans (congrArg Except.ok (if_pos (by decide)))
    · rw [serves.earlier]
      exact not_not.mpr (by decide : Instant.nanosPerSecond ≤ 1500000000)
  · rcases exists_put table behindInRange behindRounds with ⟨stored, stored_eq, serves⟩
    refine ⟨behindInRange, stored, stored_eq, fun present => ?_, ?_⟩
    · exact (serves.find _ present).trans (congrArg Except.ok (if_neg (by decide)))
    · rw [← Instant.before_iff_lt]
      decide

end Cache

end LinkGuard
