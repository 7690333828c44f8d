import LinkGuard.Proofs.Json.Numbers
import LinkGuard.Proofs.Json.Records
import LinkGuard.Proofs.Threat.Spelling
import LinkGuard.Proofs.Time.Written
import LinkGuard.Status
import LinkGuard.Verdict

/-!
# Records are read back

Findings, counters, statuses and verdicts are read back from what is written for them. Texts and
threats are free; counters have to fit 64 bits, and an expiry has to be representable and no leap
second. What a status shows as its error is the text of the error, so an empty text stands for no
error and for an error without a text alike.
-/

namespace LinkGuard

open Json

theorem Finding.reads_toJson (finding : Finding) :
    Reads shape.read (Utf8.encode finding.toJson) finding := by
  have threat := (Threat.reads_toJson finding.threat).map fun threat => (⟨threat, ""⟩ : Finding)
  have url := (reads_text finding.url).map fun url => { finding with url }
  apply reads_record
  apply Shape.Fills.cons rfl rfl threat
  apply Shape.Fills.cons rfl rfl url
  exact Shape.Fills.nil rfl

namespace Stats

/-- The counters are numbers of 64 bits. -/
structure Fits (stats : Stats) : Prop where
  byCache : stats.byCache < Nat.pow 2 64
  byApi : stats.byApi < Nat.pow 2 64
  failed : stats.failed < Nat.pow 2 64
  cached : stats.cached < Nat.pow 2 64

theorem reads_toJson {stats : Stats} (fits : stats.Fits) :
    Reads shape.read (Utf8.encode stats.toJson) stats := by
  have byCache := (reads_natural fits.byCache).map fun byCache => ({ byCache } : Stats)
  have byApi := (reads_natural fits.byApi).map fun byApi =>
    ({ byCache := stats.byCache, byApi } : Stats)
  have failed := (reads_natural fits.failed).map fun failed =>
    { stats with failed, cached := 0 }
  have cached := (reads_natural fits.cached).map fun cached => { stats with cached }
  apply reads_record
  apply Shape.Fills.cons rfl rfl byCache
  apply Shape.Fills.cons rfl rfl byApi
  apply Shape.Fills.cons rfl rfl failed
  apply Shape.Fills.cons rfl rfl cached
  exact Shape.Fills.nil rfl

end Stats

theorem Status.reads_toJson {status : Status} (fits : status.stats.Fits) :
    Reads shape.read (Utf8.encode status.toJson) status := by
  have stats := (Stats.reads_toJson fits).map fun stats => (⟨stats, ""⟩ : Status)
  have error := (reads_text status.error).map fun error => { status with error }
  apply reads_record
  apply Shape.Fills.cons rfl rfl stats
  apply Shape.Fills.cons rfl rfl error
  exact Shape.Fills.nil rfl

/-- The instant is representable and no leap second. -/
structure Instant.IsRegular (instant : Instant) : Prop extends instant.IsRepresentable where
  regular : instant.nanos < nanosPerSecond

theorem Instant.reads_write {instant : Instant} (regular : instant.IsRegular) :
    Reads Instant.read (Utf8.encode (text (Timestamp.write instant))) instant where
  begins := ⟨0x22, _, encode_text _, isFirst_quote⟩
  takes rest _ := by
    have parsed := Timestamp.parse_write regular.toIsRepresentable regular.regular
    exact takes_parsed (by rw [parsed, mapError_ok]) rest

theorem Verdict.reads_toJson {verdict : Verdict} (regular : verdict.expiry.IsRegular) :
    Reads shape.read (Utf8.encode verdict.toJson) verdict := by
  have url := (reads_text verdict.url).map fun url => ({ Verdict.shape.empty with url } : Verdict)
  have threats := (Threat.reads_listToJson verdict.threats).map fun threats =>
    ({ Verdict.shape.empty with url := verdict.url, threats } : Verdict)
  have expiry := (Instant.reads_write regular).map fun expiry => { verdict with expiry }
  apply reads_record
  apply Shape.Fills.cons rfl rfl url
  apply Shape.Fills.cons rfl rfl threats
  apply Shape.Fills.cons rfl rfl expiry
  exact Shape.Fills.nil rfl

namespace Status

/-- The text is what a status shows for the error. -/
structure Shows (error : Option EngineError) (shown : String) : Prop where
  message : ∀ failure, error = some failure → shown = failure.message
  empty : shown = "" ↔ error = none ∨ ∃ failure, error = some failure ∧ failure.message = ""

theorem shows_report (stats : Stats) (error : Option EngineError) :
    Shows error (report stats error).error := by
  cases error with
  | none => exact ⟨by rintro _ ⟨⟩, by simp [report]⟩
  | some failure => exact ⟨by rintro _ ⟨⟩; rfl, by simp [report]⟩

end Status

/-- Every record is read back as it was written, and a status is written with the text of its
error. -/
theorem records_read_back :
    (∀ finding : Finding,
      Read.body Finding.shape.read (Utf8.encode finding.toJson) = .ok finding) ∧
    (∀ stats : Stats, stats.Fits →
      Read.body Stats.shape.read (Utf8.encode stats.toJson) = .ok stats) ∧
    (∀ status : Status, status.stats.Fits →
      Read.body Status.shape.read (Utf8.encode status.toJson) = .ok status) ∧
    (∀ verdict : Verdict, verdict.expiry.IsRegular →
      Read.body Verdict.shape.read (Utf8.encode verdict.toJson) = .ok verdict) ∧
    ∀ (stats : Stats) (error : Option EngineError), ∃ shown, Status.Shows error shown ∧
      (Status.report stats error).toJson =
        Json.record [("Stats", stats.toJson), ("Error", Json.text shown)] ∧
      (stats.Fits → Read.body Status.shape.read
        (Utf8.encode (Status.report stats error).toJson) = .ok ⟨stats, shown⟩) :=
  ⟨fun finding => body_of_reads finding.reads_toJson,
    fun _ fits => body_of_reads (Stats.reads_toJson fits),
    fun _ fits => body_of_reads (Status.reads_toJson fits),
    fun _ regular => body_of_reads (Verdict.reads_toJson regular),
    fun stats error => ⟨_, Status.shows_report stats error, rfl,
      fun fits => body_of_reads (Status.reads_toJson fits)⟩⟩

/-- The greatest counters are read back, and so are the first and the last instant, with fractions
of different lengths. -/
theorem records_read_back_extremes :
    Read.body Status.shape.read (Utf8.encode (Status.report
        ⟨18446744073709551615, 0, 18446744073709551615, 1⟩ (some (.malformed "\x22\n"))).toJson) =
      .ok ⟨⟨18446744073709551615, 0, 18446744073709551615, 1⟩, "malformed engine result: \x22\n"⟩ ∧
    Read.body Stats.shape.read (Utf8.encode (Stats.toJson ⟨0, 10, 18446744073709551615, 7⟩)) =
      .ok ⟨0, 10, 18446744073709551615, 7⟩ ∧
    Read.body Verdict.shape.read (Utf8.encode
        (Verdict.toJson ⟨"é\x22", [.malware, .malware], ⟨Instant.earliestSecond, 1000⟩⟩)) =
      .ok ⟨"é\x22", [.malware, .malware], ⟨Instant.earliestSecond, 1000⟩⟩ ∧
    Read.body Verdict.shape.read (Utf8.encode (Verdict.toJson ⟨"", [], Instant.latest⟩)) =
      .ok ⟨"", [], Instant.latest⟩ := by
  have greatest : Stats.Fits ⟨18446744073709551615, 0, 18446744073709551615, 1⟩ :=
    ⟨by decide, by decide, by decide, by decide⟩
  have first : Instant.IsRegular ⟨Instant.earliestSecond, 1000⟩ :=
    ⟨⟨by decide, by decide, by decide⟩, by decide⟩
  have last : Instant.IsRegular Instant.latest := ⟨⟨by decide, by decide, by decide⟩, by decide⟩
  exact ⟨records_read_back.2.2.1 _ greatest,
    records_read_back.2.1 _ ⟨by decide, by decide, by decide, by decide⟩,
    records_read_back.2.2.2.1 _ first, records_read_back.2.2.2.1 _ last⟩

end LinkGuard
