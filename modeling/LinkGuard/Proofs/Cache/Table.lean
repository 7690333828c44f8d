import LinkGuard.Proofs.Threat.Spelling
import LinkGuard.Proofs.Time.Range

/-!
# The table of verdicts

A row answers for a link at an instant if it is the link's and has not expired in whole
milliseconds. What the table answers after an operation is a function of what it answered before:
storing a verdict changes the answers for its link alone, and removing what has expired changes no
answer from then on. A stored verdict is read back with the threats it was stored with.
-/

namespace LinkGuard.Cache

@[simp]
theorem readThreats_listToJson (threats : List Threat) :
    readThreats (Threat.listToJson threats) = .ok threats := by
  rw [readThreats, Json.body_of_reads (Threat.reads_listToJson threats)]
  rfl

/-- A verdict that does not expire beyond all stored times is read back with its threats. -/
theorem Row.verdict_ofVerdict {verdict : Verdict}
    (storable : verdict.expiry.milliseconds ≤ greatestStored) (present : Instant) :
    (Row.ofVerdict verdict).verdict present =
      .ok ⟨verdict.url, verdict.threats,
        (Instant.ofMilliseconds? verdict.expiry.milliseconds).getD present⟩ := by
  have inRange : ¬greatestStored < (Row.ofVerdict verdict).expiry := Int.not_lt.mpr storable
  have threats_eq : readThreats (Row.ofVerdict verdict).threats = .ok verdict.threats :=
    readThreats_listToJson verdict.threats
  rw [Row.verdict, if_neg inRange, threats_eq]
  rfl

/-- The row is the link's and has not expired. -/
def Row.answers (url : String) (now : Instant) (row : Row) : Bool :=
  row.url = url && row.isFresh now

section Rows

variable {rows : List Row} {row : Row} {url : String} {now later : Instant}

theorem Row.answers_iff :
    row.answers url now = true ↔ row.url = url ∧ row.isFresh now = true := by
  rw [Row.answers, Bool.and_eq_true, decide_eq_true_eq]

theorem File.table_eq {file : File} (table : file.rows = some rows) : file.table = .ok rows := by
  rw [File.table, table]

theorem File.put_eq {file : File} (table : file.rows = some rows) (verdict : Verdict) :
    file.put verdict = .ok { file with rows := some (replaceRow (.ofVerdict verdict) rows) } := by
  rw [put, putRow, table_eq table]
  rfl

theorem File.put_of_none {file : File} (gone : file.rows = none) (verdict : Verdict) :
    file.put verdict = .error .database := by
  rw [put, putRow, File.table, gone]
  rfl

theorem File.find_eq {file : File} (table : file.rows = some rows) (url : String)
    (now present : Instant) :
    file.find url now present =
      match rows.find? (Row.answers url now) with
      | some row => (row.verdict present).map some
      | none => .ok none := by
  change (file.table >>= _) = _
  rw [table_eq table]
  change (match rows.find? (Row.answers url now) with | some row => _ | none => _) = _
  cases rows.find? (Row.answers url now) with
  | none => rfl
  | some row =>
      simp only
      cases row.verdict present <;> rfl

/-- The threats of a row are read from its text. -/
theorem Row.readThreats_of_verdict {verdict : Verdict} {present : Instant}
    (read : row.verdict present = .ok verdict) :
    readThreats row.threats = .ok verdict.threats := by
  rw [Row.verdict] at read
  split at read
  case isTrue => cases read
  case isFalse =>
    cases threats_eq : readThreats row.threats with
    | error error =>
        rw [threats_eq] at read
        cases read
    | ok threats =>
        rw [threats_eq] at read
        cases read
        rfl

/-- What is found was stored in a row for the link. -/
theorem File.exists_row_of_find {file : File} {verdict : Verdict} (table : file.rows = some rows)
    (found : file.find url now later = .ok (some verdict)) :
    ∃ row ∈ rows, row.url = url ∧ readThreats row.threats = .ok verdict.threats := by
  rw [find_eq table] at found
  split at found
  case h_1 row answering =>
    rcases Row.answers_iff.mp (List.find?_some answering) with ⟨isLink, _⟩
    refine ⟨row, List.mem_of_find?_eq_some answering, isLink, ?_⟩
    cases read : row.verdict later with
    | error error =>
        rw [read] at found
        cases found
    | ok verdict =>
        rw [read] at found
        cases found
        exact Row.readThreats_of_verdict read
  case h_2 => cases found

theorem File.find_of_none {file : File} (gone : file.rows = none) (verdict : Verdict) :
    file.find url now later ≠ .ok (some verdict) := by
  have gone_eq : file.table = .error .database := by
    rw [File.table, gone]
  change (file.table >>= _) ≠ _
  rw [gone_eq]
  intro found
  cases found

theorem Row.isFresh_iff : row.isFresh now = true ↔ now.milliseconds < row.expiry := by
  simp only [isFresh, decide_eq_true_eq]

theorem Row.isFresh_of_le (order : now.milliseconds ≤ later.milliseconds)
    (fresh : row.isFresh later = true) : row.isFresh now = true := by
  rw [isFresh_iff] at fresh ⊢
  omega

/-- The answer for a link is told by its own rows. -/
theorem find?_answers_eq (rows : List Row) (url : String) (now : Instant) :
    rows.find? (Row.answers url now) =
      (rows.filter fun row => row.url = url).find? (Row.isFresh now) := by
  rw [List.find?_filter]
  simp only [Bool.decide_and, decide_eq_true_eq, Bool.decide_eq_true]
  rfl

/-- Leaving out rows that do not answer anyway changes no answer. -/
theorem find?_filter_of_imp {keep answer : Row → Bool}
    (kept : ∀ row, answer row = true → keep row = true) :
    (rows.filter keep).find? answer = rows.find? answer := by
  have same : (fun row => keep row && answer row) = answer := by
    funext row
    cases answers : answer row with
    | false => exact Bool.and_false _
    | true => rw [kept row answers, Bool.and_self]
  rw [List.find?_filter]
  exact congrArg (List.find? · rows) (by simpa using same)

theorem find?_replaceRow_same :
    (replaceRow row rows).find? (Row.answers row.url now) =
      if row.isFresh now then some row else none := by
  have others : (rows.filter fun other => other.url ≠ row.url).find? (Row.answers row.url now) =
      none := by
    rw [List.find?_eq_none]
    intro other mem
    have different := of_decide_eq_true (List.mem_filter.mp mem).2
    simp only [Row.answers, different, decide_false, Bool.false_and, Bool.false_eq_true,
      not_false_eq_true]
  rw [replaceRow, List.find?_cons]
  by_cases fresh : row.isFresh now = true
  · simp only [Row.answers, fresh, decide_true, Bool.and_self, if_true]
  · simp only [Row.answers, fresh, Bool.and_false, others]
    simp

theorem find?_replaceRow_other (other : row.url ≠ url) :
    (replaceRow row rows).find? (Row.answers url now) = rows.find? (Row.answers url now) := by
  have silent : Row.answers url now row = false := by
    simp only [Row.answers, other, decide_false, Bool.false_and]
  rw [replaceRow, List.find?_cons, silent]
  apply find?_filter_of_imp
  intro answering answers
  simp only [Row.answers, Bool.and_eq_true, decide_eq_true_eq] at answers
  rw [decide_eq_true_eq, answers.1]
  exact other.symm

/-- Of the rows for a link, the one that takes their place is left, and other links keep theirs. -/
theorem filter_replaceRow :
    (replaceRow row rows).filter (fun other => other.url = url) =
      if row.url = url then [row] else rows.filter fun other => other.url = url := by
  rw [replaceRow, List.filter_cons, List.filter_filter]
  split
  case isTrue same =>
    have same := of_decide_eq_true same
    rw [if_pos same, List.filter_eq_nil_iff.mpr]
    intro other _ both
    rw [Bool.and_eq_true, decide_eq_true_eq, decide_eq_true_eq] at both
    exact both.2 (both.1.trans same.symm)
  case isFalse different =>
    have different : row.url ≠ url := fun same => different (decide_eq_true same)
    rw [if_neg different]
    apply List.filter_congr
    intro other _
    rw [Bool.eq_iff_iff, Bool.and_eq_true, decide_eq_true_eq, decide_eq_true_eq]
    refine and_iff_left_of_imp fun isLink isRow => ?_
    exact different (isRow.symm.trans isLink)

theorem find?_filter_isFresh (order : now.milliseconds ≤ later.milliseconds) :
    (rows.filter (Row.isFresh now)).find? (Row.answers url later) =
      rows.find? (Row.answers url later) := by
  apply find?_filter_of_imp
  intro row answers
  simp only [Row.answers, Bool.and_eq_true] at answers
  exact Row.isFresh_of_le order answers.2

/-- What a table does not answer now it does not answer later. -/
theorem find?_eq_none_of_le (order : now.milliseconds ≤ later.milliseconds)
    (missing : rows.find? (Row.answers url now) = none) :
    rows.find? (Row.answers url later) = none := by
  rw [List.find?_eq_none] at missing ⊢
  intro row mem answers
  apply missing row mem
  simp only [Row.answers, Bool.and_eq_true] at answers ⊢
  exact ⟨answers.1, Row.isFresh_of_le order answers.2⟩

end Rows

end LinkGuard.Cache
