import LinkGuard.Proofs.Cache.Interruption
import Mathlib.Logic.Function.Iterate

/-!
# Two openers of one file

Two openers may work on the same file, and the statements of their migrations come in any order. An
opener reads the layout once, and everything it does from then on depends on what it has read. So
the rows are converted once if one of them reads the layout only when the other has recorded the
current one. If both have read an old layout, both scale the times.

The proof follows the stages of such a run. As long as at most one opener has read the layout, the
file is known exactly. When the second one reads it, either the first one is done, and nothing
happens any more, or both are at work. Then we only count how often the times have been scaled and
how often they will be, which together is twice.
-/

namespace LinkGuard.Cache

/-- One of two who open the same file. -/
inductive Opener where
  | first
  | second
  deriving DecidableEq, Repr

/-- The opener that works on the file at the same time. -/
def Opener.other : Opener → Opener
  | first => second
  | second => first

/-- The opener has read which layout is recorded. -/
def Opening.hasRead : Opening → Bool
  | running _ => true
  | start | reading => false

/-- A file and how far both openers have come. -/
structure Shared where
  file : File
  opening : Opener → Opening := fun _ => .start

namespace Shared

/-- The opener takes its next step, if it has one and that does not fail. -/
def step? (shared : Shared) (opener : Opener) : Option Shared :=
  match (shared.opening opener).step? shared.file with
  | some (.ok (file, opening)) => some ⟨file, Function.update shared.opening opener opening⟩
  | _ => none

/-- The file and both openers after some turns, unless one of these cannot be taken. -/
def after? (shared : Shared) : List Opener → Option Shared
  | [] => some shared
  | opener :: turns => (shared.step? opener).bind (after? · turns)

/-- One opener is done, and the other has not read the layout yet. -/
def IsBetween (shared : Shared) : Prop :=
  ∃ opener, shared.opening opener = .running [] ∧
    (shared.opening (Opener.other opener)).hasRead = false

/-- At some time in these turns, one opener is done and the other has not read the layout yet. -/
def OneAfterOther (shared : Shared) (turns : List Opener) : Prop :=
  ∃ earlier between, earlier <+: turns ∧ shared.after? earlier = some between ∧ between.IsBetween

end Shared

section Steps

variable {shared next : Shared} {opener : Opener} {turns : List Opener}

theorem Opener.other_ne (opener : Opener) : opener.other ≠ opener := by
  cases opener <;> decide

theorem Opener.eq_or_eq_other (opener one : Opener) : opener = one ∨ opener = one.other := by
  cases opener <;> cases one <;> decide

@[simp]
theorem Opener.other_other (opener : Opener) : opener.other.other = opener := by
  cases opener <;> rfl

/-- What a step does: it moves one opener, and the other stays where it is. -/
theorem Shared.step?_eq_some (step : shared.step? opener = some next) :
    (shared.opening opener).step? shared.file = some (.ok (next.file, next.opening opener)) ∧
      next.opening opener.other = shared.opening opener.other := by
  unfold step? at step
  split at step
  case h_1 file opening moved =>
    cases step
    simp [moved, opener.other_ne]
  case h_2 => cases step

theorem Opening.step?_running {file after : File} {statement : Statement}
    {rest : List Statement} {opening : Opening}
    (step : (running (statement :: rest)).step? file = some (.ok (after, opening))) :
    statement.run file = .ok after ∧ opening = running rest := by
  cases ran : statement.run file with
  | error error => simp [step?, ran, Except.map] at step
  | ok result =>
      simp only [step?, ran, Except.map, Option.some.injEq, Except.ok.injEq,
        Prod.mk.injEq] at step
      rcases step with ⟨rfl, rfl⟩
      exact ⟨rfl, rfl⟩

theorem Opening.step?_unread {file after : File} {opening moved : Opening}
    (unread : opening.hasRead = false) (step : opening.step? file = some (.ok (after, moved))) :
    after = file.opened ∧ moved = reading ∨
      after = file ∧ moved = running (pending file.version) := by
  cases opening with
  | start =>
      cases step
      exact .inl ⟨rfl, rfl⟩
  | reading =>
      cases step
      exact .inr ⟨rfl, rfl⟩
  | running statements => cases unread

/-- A file of layout 1 has the table of layouts already. -/
theorem File.opened_of_recorded {file : File} (recorded : file.version = 1) :
    file.opened = file := by
  rcases file with ⟨_ | versions, rows⟩
  · cases recorded
  · rfl

namespace Statement

variable {file after : File} {rows : List Row}

theorem run_createRows (table : file.rows = some rows) : createRows.run file = .ok file := by
  cases file
  cases table
  rfl

theorem run_indexRows (table : file.rows = some rows) : indexRows.run file = .ok file := by
  cases file
  cases table
  rfl

theorem run_scaleExpiry (table : file.rows = some rows) :
    scaleExpiry.run file = .ok { file with rows := some (rows.map Row.scaled) } := by
  cases file
  cases table
  rfl

theorem run_clearVersions (ran : clearVersions.run file = .ok after) :
    after = { file with versions := some [] } := by
  simp only [run] at ran
  split at ran
  · exact (Except.ok.inj ran).symm
  · cases ran

/-- A layout is recorded only where it is not yet. -/
theorem run_recordVersion {version : Int} (ran : (recordVersion version).run file = .ok after)
    (cleared : file.versions = some [] ∨ file.versions = some [version]) :
    after = { file with versions := some [version] } := by
  rcases cleared with empty | recorded
  · simp only [run, empty, List.not_mem_nil, if_false, List.nil_append] at ran
    exact (Except.ok.inj ran).symm
  · simp only [run, recorded, List.mem_singleton, if_true] at ran
    cases ran

end Statement

end Steps

/-! ## Stages -/

section Stages

variable (origin : File) (rows : List Row)

/-- How far the file and one opener can have come while the other has not read the layout. -/
inductive Ahead : File → Opening → Prop
  | read : Ahead origin (.running conversion)
  | scaled : Ahead ⟨origin.versions, some (rows.map Row.scaled)⟩
      (.running [.clearVersions, .recordVersion currentVersion])
  | cleared : Ahead ⟨some [], some (rows.map Row.scaled)⟩
      (.running [.recordVersion currentVersion])

/-- The statements of an opener that finds neither table. -/
def longest : List Statement :=
  .createRows :: .indexRows :: conversion

/-- Both openers have read an old layout and have statements left. The times have been scaled some
number of times, and once these statements have run it will be twice. The file has the layouts that
it began with until an opener clears them, and then at most the current one. -/
structure Overlap (file : File) (mine theirs : List Statement) (scalings : Nat) : Prop where
  left : mine <:+ longest
  right : theirs <:+ longest
  table : file.rows = some ((List.map Row.scaled)^[scalings] rows)
  twice : scalings + mine.count .scaleExpiry + theirs.count .scaleExpiry = 2
  cleared : .clearVersions ∉ mine ∨ .clearVersions ∉ theirs →
    file.versions = some [] ∨ file.versions = some [currentVersion]
  recorded : mine = [] → theirs = [] → file.versions = some [currentVersion]

/-- The stages of a run in which nobody has read the layout behind somebody who was done. -/
inductive Stage (shared : Shared) : Prop
  | unread (untouched : shared.file = origin)
      (unread : ∀ opener, (shared.opening opener).hasRead = false)
  | ahead (opener : Opener) (ahead : Ahead origin rows shared.file (shared.opening opener))
      (unread : (shared.opening opener.other).hasRead = false)
  | overlap (opener : Opener) (mine theirs : List Statement) (scalings : Nat)
      (mine_eq : shared.opening opener = .running mine)
      (theirs_eq : shared.opening opener.other = .running theirs)
      (overlap : Overlap rows shared.file mine theirs scalings)

/-- The stage of all other runs: one opener is done, and the other finds nothing to do. -/
def Settled (shared : Shared) : Prop :=
  shared.file = ⟨some [currentVersion], some (rows.map Row.scaled)⟩ ∧
    ∃ opener, shared.opening opener = .running [] ∧
      ((shared.opening (Opener.other opener)).hasRead = false ∨
        shared.opening (Opener.other opener) = .running [])

variable {origin rows} {shared next : Shared} {opener : Opener}

section Overlap

variable {file after : File} {mine theirs : List Statement} {scalings : Nat}

theorem Overlap.symm (overlap : Overlap rows file mine theirs scalings) :
    Overlap rows file theirs mine scalings where
  left := overlap.right
  right := overlap.left
  table := overlap.table
  twice := by
    have twice := overlap.twice
    omega
  cleared absent := overlap.cleared absent.symm
  recorded first second := overlap.recorded second first

theorem Overlap.run {statement : Statement} {rest : List Statement}
    (overlap : Overlap rows file (statement :: rest) theirs scalings)
    (ran : statement.run file = .ok after) : ∃ later, Overlap rows after rest theirs later := by
  rcases overlap with ⟨left, right, table, twice, cleared, _⟩
  have shorter := (List.suffix_cons statement rest).trans left
  simp only [longest, conversion, List.suffix_cons_iff, List.cons.injEq, List.suffix_nil,
    reduceCtorEq, or_false] at left
  rcases left with ⟨rfl, rfl⟩ | ⟨rfl, rfl⟩ | ⟨rfl, rfl⟩ | ⟨rfl, rfl⟩ | ⟨rfl, rfl⟩
  · cases (Statement.run_createRows table).symm.trans ran
    exact ⟨_, shorter, right, table, twice, fun absent => cleared (by simpa using absent),
      fun done => absurd done (List.cons_ne_nil _ _)⟩
  · cases (Statement.run_indexRows table).symm.trans ran
    exact ⟨_, shorter, right, table, twice, fun absent => cleared (by simpa using absent),
      fun done => absurd done (List.cons_ne_nil _ _)⟩
  · cases (Statement.run_scaleExpiry table).symm.trans ran
    refine ⟨scalings + 1, shorter, right, ?_, ?_, fun absent => cleared (by simpa using absent),
      fun done => absurd done (List.cons_ne_nil _ _)⟩
    · rw [Function.iterate_succ_apply']
    · simp at twice ⊢
      omega
  · cases Statement.run_clearVersions ran
    exact ⟨_, shorter, right, table, twice, fun _ => .inl rfl,
      fun done => absurd done (List.cons_ne_nil _ _)⟩
  · cases Statement.run_recordVersion ran (cleared (by simp))
    exact ⟨_, shorter, right, table, twice, fun _ => .inr rfl, fun _ _ => rfl⟩

end Overlap

section Ahead

variable {file after : File} {opening moved : Opening}

theorem Ahead.opened (same : origin.opened = origin) (ahead : Ahead origin rows file opening) :
    file.opened = file := by
  have versions_eq : some (origin.versions.getD []) = origin.versions :=
    congrArg File.versions same
  cases ahead with
  | read => exact same
  | scaled => exact congrArg (File.mk · _) versions_eq
  | cleared => rfl

theorem Ahead.not_done (ahead : Ahead origin rows file opening) : opening ≠ .running [] := by
  cases ahead <;> nofun

theorem Ahead.step (table : origin.rows = some rows) (ahead : Ahead origin rows file opening)
    (step : opening.step? file = some (.ok (after, moved))) :
    Ahead origin rows after moved ∨
      after = ⟨some [currentVersion], some (rows.map Row.scaled)⟩ ∧ moved = .running [] := by
  cases ahead with
  | read =>
      rcases Opening.step?_running step with ⟨ran, rfl⟩
      cases (Statement.run_scaleExpiry table).symm.trans ran
      exact .inl .scaled
  | scaled =>
      rcases Opening.step?_running step with ⟨ran, rfl⟩
      cases Statement.run_clearVersions ran
      exact .inl .cleared
  | cleared =>
      rcases Opening.step?_running step with ⟨ran, rfl⟩
      cases Statement.run_recordVersion ran (.inl rfl)
      exact .inr ⟨rfl, rfl⟩

theorem Ahead.overlap (recorded : origin.version = 1) (table : origin.rows = some rows)
    (ahead : Ahead origin rows file opening) :
    ∃ mine scalings, opening = .running mine ∧
      Overlap rows file mine (pending file.version) scalings := by
  cases ahead with
  | read =>
      rw [recorded]
      exact ⟨_, 0, rfl, by decide, by decide, table, by decide,
        fun absent => absurd absent (by decide), nofun⟩
  | scaled =>
      change ∃ mine scalings, _ ∧ Overlap rows _ mine (pending origin.version) scalings
      rw [recorded]
      exact ⟨_, 1, rfl, by decide, by decide, rfl, by decide,
        fun absent => absurd absent (by decide), nofun⟩
  | cleared =>
      change ∃ mine scalings, _ ∧ Overlap rows _ mine (pending 0) scalings
      exact ⟨_, 1, rfl, by decide, by decide, rfl, by decide, fun _ => .inl rfl, nofun⟩

end Ahead

theorem Stage.not_isBetween (stage : Stage origin rows shared) : ¬shared.IsBetween := by
  rintro ⟨opener, done, unread⟩
  cases stage with
  | unread untouched nobody =>
      have read := nobody opener
      simp [done, Opening.hasRead] at read
  | ahead one ahead unread' =>
      rcases opener.eq_or_eq_other one with rfl | rfl
      · exact ahead.not_done done
      · simp [done, Opening.hasRead] at unread'
  | overlap one mine theirs scalings mine_eq theirs_eq overlap =>
      rcases opener.eq_or_eq_other one with rfl | rfl
      · simp [theirs_eq, Opening.hasRead] at unread
      · simp [mine_eq, Opening.hasRead] at unread

theorem Overlap.step {mine theirs : List Statement} {scalings : Nat}
    (overlap : Overlap rows shared.file mine theirs scalings)
    (mine_eq : shared.opening opener = .running mine)
    (theirs_eq : shared.opening opener.other = .running theirs)
    (step : shared.step? opener = some next) : Stage origin rows next := by
  rcases Shared.step?_eq_some step with ⟨moved, stays⟩
  rw [mine_eq] at moved
  cases mine with
  | nil => cases moved
  | cons statement rest =>
      rcases Opening.step?_running moved with ⟨ran, running⟩
      rcases overlap.run ran with ⟨later, overlap⟩
      exact .overlap opener rest theirs later running (stays.trans theirs_eq) overlap

/-- A step leads to the next stage, or one opener is done before the other has read the layout. -/
theorem Stage.step (recorded : origin.version = 1) (table : origin.rows = some rows)
    (stage : Stage origin rows shared) (step : shared.step? opener = some next) :
    Stage origin rows next ∨ next.IsBetween ∧ Settled rows next := by
  have opened := File.opened_of_recorded recorded
  rcases Shared.step?_eq_some step with ⟨moved, stays⟩
  cases stage with
  | unread untouched nobody =>
      left
      rw [untouched] at moved
      rcases Opening.step?_unread (nobody opener) moved with ⟨file_eq, reading⟩ | ⟨file_eq, running⟩
      · refine .unread (file_eq.trans opened) fun one => ?_
        rcases one.eq_or_eq_other opener with rfl | rfl
        · rw [reading]
          rfl
        · rw [stays]
          exact nobody _
      · refine .ahead opener ?_ (stays ▸ nobody _)
        rw [file_eq, running, recorded]
        exact .read
  | ahead one ahead unread =>
      rcases opener.eq_or_eq_other one with rfl | rfl
      · rcases ahead.step table moved with still | ⟨file_eq, done⟩
        · exact .inl (.ahead opener still (stays ▸ unread))
        · exact .inr ⟨⟨opener, done, stays ▸ unread⟩, file_eq, opener, done, .inl (stays ▸ unread)⟩
      · left
        rw [Opener.other_other] at stays
        rcases Opening.step?_unread unread moved with ⟨file_eq, reading⟩ | ⟨file_eq, running⟩
        · refine .ahead one ?_ ?_
          · rw [file_eq, stays, ahead.opened opened]
            exact ahead
          · rw [reading]
            rfl
        -- This one finds an old layout behind the first, so from here on both are at work.
        · rcases ahead.overlap recorded table with ⟨mine, scalings, mine_eq, overlap⟩
          exact .overlap one mine _ scalings (stays.trans mine_eq) running (file_eq ▸ overlap)
  | overlap one mine theirs scalings mine_eq theirs_eq overlap =>
      left
      rcases opener.eq_or_eq_other one with rfl | rfl
      · exact overlap.step mine_eq theirs_eq step
      · exact overlap.symm.step theirs_eq (by simpa using mine_eq) step

theorem Settled.step (settled : Settled rows shared) (step : shared.step? opener = some next) :
    Settled rows next := by
  rcases Shared.step?_eq_some step with ⟨moved, stays⟩
  rcases settled with ⟨file_eq, one, done, other⟩
  rcases opener.eq_or_eq_other one with rfl | rfl
  · rw [done] at moved
    cases moved
  · rw [Opener.other_other] at stays
    rcases other with unread | done'
    · rw [file_eq] at moved
      rcases Opening.step?_unread unread moved with ⟨after, reading⟩ | ⟨after, running⟩
      · exact ⟨after, one, stays.trans done, .inl (by rw [reading]; rfl)⟩
      · exact ⟨after, one, stays.trans done, .inr running⟩
    · rw [done'] at moved
      cases moved

end Stages

/-! ## Whole runs -/

section Runs

variable {origin : File} {rows : List Row} {shared ended : Shared} {turns : List Opener}

theorem Settled.after? (settled : Settled rows shared) (after : shared.after? turns = some ended) :
    Settled rows ended := by
  induction turns generalizing shared with
  | nil =>
      cases after
      exact settled
  | cons opener turns ih =>
      rcases Option.bind_eq_some_iff.mp after with ⟨next, step, rest⟩
      exact ih (settled.step step) rest

theorem Shared.oneAfterOther_nil : shared.OneAfterOther [] ↔ shared.IsBetween := by
  constructor
  · rintro ⟨earlier, between, isPrefix, after, isBetween⟩
    cases List.prefix_nil.mp isPrefix
    cases after
    exact isBetween
  · intro isBetween
    exact ⟨[], shared, List.nil_prefix, rfl, isBetween⟩

theorem Shared.oneAfterOther_cons {next : Shared} {opener : Opener}
    (step : shared.step? opener = some next) :
    shared.OneAfterOther (opener :: turns) ↔ shared.IsBetween ∨ next.OneAfterOther turns := by
  constructor
  · rintro ⟨earlier, between, isPrefix, after, isBetween⟩
    cases earlier with
    | nil =>
        cases after
        exact .inl isBetween
    | cons one earlier =>
        rcases List.cons_prefix_cons.mp isPrefix with ⟨rfl, shorter⟩
        rw [after?, step, Option.bind_some] at after
        exact .inr ⟨earlier, between, shorter, after, isBetween⟩
  · rintro (isBetween | ⟨earlier, between, isPrefix, after, isBetween⟩)
    · exact ⟨[], shared, List.nil_prefix, rfl, isBetween⟩
    · refine ⟨opener :: earlier, between, List.cons_prefix_cons.mpr ⟨rfl, isPrefix⟩, ?_, isBetween⟩
      rw [after?, step, Option.bind_some]
      exact after

/-- A run from a stage either settles the file, and one opener has gone after the other, or it ends
in a stage, and none has. -/
theorem Stage.after? (recorded : origin.version = 1) (table : origin.rows = some rows)
    (stage : Stage origin rows shared) (after : shared.after? turns = some ended) :
    shared.OneAfterOther turns ∧ Settled rows ended ∨
      ¬shared.OneAfterOther turns ∧ Stage origin rows ended := by
  induction turns generalizing shared with
  | nil =>
      cases after
      exact .inr ⟨fun apart => stage.not_isBetween (Shared.oneAfterOther_nil.mp apart), stage⟩
  | cons opener turns ih =>
      rcases Option.bind_eq_some_iff.mp after with ⟨next, step, rest⟩
      rw [Shared.oneAfterOther_cons step, or_iff_right stage.not_isBetween]
      rcases stage.step recorded table step with nextStage | ⟨isBetween, settled⟩
      · exact ih nextStage rest
      · exact .inl ⟨⟨[], next, List.nil_prefix, rfl, isBetween⟩, settled.after? rest⟩

theorem Stage.file_of_done (stage : Stage origin rows ended)
    (done : ∀ opener, ended.opening opener = .running []) :
    ended.file = ⟨some [currentVersion], some ((rows.map Row.scaled).map Row.scaled)⟩ := by
  cases stage with
  | unread _ nobody =>
      have read := nobody .first
      simp [done, Opening.hasRead] at read
  | ahead one ahead unread => exact absurd (done one) ahead.not_done
  | overlap one mine theirs scalings mine_eq theirs_eq overlap =>
      rw [done] at mine_eq theirs_eq
      cases mine_eq
      cases theirs_eq
      have scalings_eq : scalings = 2 := by simpa using overlap.twice
      have versions_eq := overlap.recorded rfl rfl
      have rows_eq := overlap.table
      cases scalings_eq
      rcases ended with ⟨⟨versions, present⟩, opening⟩
      cases versions_eq
      cases rows_eq
      rfl

/-- When two openers of a file of layout 1 are done, the current layout is recorded. The rows are
converted to milliseconds exactly if one of them read the layout only when the other was done, or if
all times are zero, and otherwise their times have been scaled twice. -/
theorem openers_convert_once_iff (recorded : origin.version = 1) (table : origin.rows = some rows)
    (after : Shared.after? { file := origin } turns = some ended)
    (done : ∀ opener, ended.opening opener = .running []) :
    ended.file.version = currentVersion ∧
      (ended.file.rows = some (rows.map fun row => ⟨row.url, row.threats, row.expiry * 1000⟩) ↔
        Shared.OneAfterOther { file := origin } turns ∨ ∀ row ∈ rows, row.expiry = 0) ∧
      (¬Shared.OneAfterOther { file := origin } turns → ended.file.rows =
        some (rows.map fun row => ⟨row.url, row.threats, row.expiry * 1000 * 1000⟩)) := by
  have start : Stage origin rows { file := origin } := .unread rfl fun _ => rfl
  rcases start.after? recorded table after with ⟨apart, file_eq, _⟩ | ⟨together, stage⟩
  · rw [file_eq]
    exact ⟨rfl, iff_of_true rfl (.inl apart), absurd apart⟩
  · rw [stage.file_of_done done]
    refine ⟨rfl, ?_, fun _ => ?_⟩
    · rw [or_iff_right together, ← map_scaled_eq_iff, Option.some.injEq]
      rfl
    · rw [List.map_map]
      rfl

end Runs

/-- The rows are converted once when the second opener begins behind the first. -/
theorem openers_convert_once_iff_apart :
    File.version ⟨some [1], some [⟨"u", "[]", 1700000000⟩]⟩ = 1 ∧
      ∃ ended, Shared.after? { file := ⟨some [1], some [⟨"u", "[]", 1700000000⟩]⟩ }
          [.first, .first, .first, .first, .first, .second, .second] = some ended ∧
        (∀ opener, ended.opening opener = .running []) ∧
        ended.file.rows = some [⟨"u", "[]", 1700000000000⟩] := by
  have recorded : File.version ⟨some [1], some [⟨"u", "[]", 1700000000⟩]⟩ = 1 := by decide
  let start : Shared := { file := ⟨some [1], some [⟨"u", "[]", 1700000000⟩]⟩ }
  let turns : List Opener := [.first, .first, .first, .first, .first, .second, .second]
  have apart : start.OneAfterOther turns :=
    ⟨[.first, .first, .first, .first, .first], _, ⟨[.second, .second], rfl⟩, rfl,
      .first, rfl, rfl⟩
  rcases after : start.after? turns with _ | ended
  · cases after
  · have done (opener : Opener) : ended.opening opener = .running [] := by
      cases after
      cases opener <;> rfl
    rcases openers_convert_once_iff recorded rfl after done with ⟨_, once, _⟩
    exact ⟨recorded, ended, rfl, done, once.mpr (.inl apart)⟩

/-- If both openers read the layout before one of them scales the times, they are scaled twice. -/
theorem openers_scale_twice :
    let start : Shared := { file := ⟨some [1], some [⟨"u", "[]", 4102444800⟩]⟩ }
    let turns : List Opener := [.first, .second, .first, .second, .first, .second, .first, .first,
      .second, .second]
    start.file.version = 1 ∧ ∃ ended, start.after? turns = some ended ∧
      (∀ opener, ended.opening opener = .running []) ∧
      ended.file = ⟨some [2], some [⟨"u", "[]", 4102444800000000⟩]⟩ := by
  refine ⟨by decide, _, rfl, fun opener => ?_, rfl⟩
  cases opener <;> rfl

end LinkGuard.Cache
