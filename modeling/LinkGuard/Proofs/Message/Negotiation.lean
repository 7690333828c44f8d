import LinkGuard.Proofs.Message.RoundTrip
import LinkGuard.Proofs.Text.Trim
import LinkGuard.Proofs.Time.Range

/-!
# Choosing a format and reading a body

A selector names a format by its short name or by its media type, a content type by its media type
alone. Blanks around names do not count, nor do the parameters of a media type or the case of its
letters, whereas short names are small.

Reading a body makes two choices that do not touch each other. The selector, or else the content
type, gives the format of the answer. The content type alone says how the body is read.
-/

namespace LinkGuard

namespace Format

/-- The short name of a format. -/
def shortName : Format → String
  | json => "json"
  | compact => "proto"

/-- The short name of the format, with or without blanks around it. -/
def IsShortName (format : Format) (value : String) : Prop :=
  Text.IsPadded value.toList format.shortName.toList

/-- The media type of the format in any letter case, with or without blanks around it, and whatever
follows from a semicolon on. -/
def IsMediaType (format : Format) (value : String) : Prop :=
  ∃ (essence parameters : List Char) (name : String), value.toList = essence ++ parameters ∧
    ';' ∉ essence ∧ (∀ character ∈ parameters.head?, character = ';') ∧
    Text.IsPadded essence name.toList ∧ Text.sameLetters name format.mediaType = true

variable {format other : Format} {value name : String}

theorem isShortName_iff : IsShortName format value ↔ Text.trim value = format.shortName := by
  have solid : ∀ character ∈ format.shortName.toList, Text.isBlank character = false := by
    apply Text.solid_of_all
    cases format <;> decide
  rw [IsShortName, Text.isPadded_iff solid, Text.trim]
  constructor
  · intro same
    rw [same, String.ofList_toList]
  · intro same
    rw [← same, String.toList_ofList]

theorem solid_of_sameLetters (same : Text.sameLetters name format.mediaType = true) :
    ∀ character ∈ name.toList, Text.isBlank character = false := by
  apply Text.solid_of_sameLetters same
  apply Text.solid_of_all
  cases format <;> decide

/-- The part in front of the parameters, trimmed, is the media type. -/
theorem isMediaType_iff : IsMediaType format value ↔
    Text.sameLetters (String.ofList (Text.trimBlanks (value.toList.takeWhile (· ≠ ';'))))
      format.mediaType = true := by
  constructor
  · rintro ⟨essence, parameters, name, value_eq, inside, outside, padded, same⟩
    have essence_eq : value.toList.takeWhile (· ≠ ';') = essence := by
      have before : ∀ character ∈ essence, decide (character ≠ ';') = true := by
        intro character mem
        apply decide_eq_true
        rintro rfl
        exact inside mem
      have none : parameters.takeWhile (· ≠ ';') = [] := by
        cases parameters with
        | nil => rfl
        | cons first rest => simp [outside first rfl]
      rw [value_eq, List.takeWhile_append_of_pos before, none, List.append_nil]
    have name_eq := (Text.isPadded_iff (solid_of_sameLetters same)).mp padded
    rwa [essence_eq, name_eq, String.ofList_toList]
  · intro same
    refine ⟨value.toList.takeWhile (· ≠ ';'), value.toList.dropWhile (· ≠ ';'), _,
      List.takeWhile_append_dropWhile.symm, ?_, ?_, ?_, same⟩
    · intro mem
      simpa using List.mem_takeWhile_imp mem
    · intro character head
      have stops := List.head?_dropWhile_not (fun character => decide (character ≠ ';'))
        value.toList
      rw [Option.mem_def.mp head] at stops
      simpa using stops
    · rw [String.toList_ofList]
      exact Text.isPadded_trimBlanks _

theorem isMediaType_trim : IsMediaType format (Text.trim value) ↔ IsMediaType format value := by
  have passes : ∀ character, Text.isBlank character = true → decide (character ≠ ';') = true := by
    intro character blank
    apply decide_eq_true
    rintro rfl
    exact absurd blank (by decide)
  rw [isMediaType_iff, isMediaType_iff, Text.trim, String.toList_ofList,
    Text.trimBlanks_takeWhile_trimBlanks passes]

theorem sameLetters_mediaType (same : Text.sameLetters name format.mediaType = true)
    (same' : Text.sameLetters name other.mediaType = true) : format = other := by
  have equal := (Text.sameLetters_iff.mp same).symm.trans (Text.sameLetters_iff.mp same')
  revert equal
  cases format <;> cases other <;> decide

/-- A content type has the format whose media type it is. -/
theorem ofContentType?_eq_some_iff :
    ofContentType? value = some format ↔ IsMediaType format value := by
  rw [isMediaType_iff, ofContentType?]
  generalize String.ofList _ = essence
  constructor
  · intro found
    split at found
    · cases found
      assumption
    · split at found
      · cases found
        assumption
      · cases found
  · intro same
    split
    case isTrue same' => exact congrArg some (sameLetters_mediaType same' same)
    case isFalse differs =>
      split
      case isTrue same' => exact congrArg some (sameLetters_mediaType same' same)
      case isFalse differs' => cases format <;> contradiction

theorem not_isMediaType_of_isShortName (short : IsShortName format value) :
    ¬IsMediaType other value := by
  rw [← isMediaType_trim, isShortName_iff.mp short, isMediaType_iff]
  cases format <;> cases other <;> decide

/-- A selector has the format that it names in either way. -/
theorem ofSelector?_eq_some_iff : ofSelector? value = some format ↔
    IsShortName format value ∨ IsMediaType format value := by
  rw [ofSelector?, isShortName_iff, ← isMediaType_trim, ← ofContentType?_eq_some_iff]
  generalize Text.trim value = trimmed
  split
  case isTrue short =>
    subst short
    cases format <;> decide
  case isFalse notJson =>
    split
    case isTrue short =>
      subst short
      cases format <;> decide
    case isFalse notCompact =>
      have notShort : trimmed ≠ format.shortName := by
        cases format <;> assumption
      simp [notShort]

variable {selector contentType : Option String} {error : CodecError}

/-- A selector that is not empty counts alone. -/
theorem negotiate_named (named : value ≠ "") :
    negotiate (some value) contentType = .ok format ↔ ofSelector? value = some format := by
  have kept : (some value).filter (· ≠ "") = some value := by simp [named]
  rw [negotiate, kept]
  simp only
  split <;> simp_all

theorem negotiate_unnamed (unnamed : selector.getD "" = "") :
    negotiate selector contentType = negotiate none contentType := by
  cases selector with
  | none => rfl
  | some value =>
      cases unnamed
      rfl

/-- Without a selector the content type counts, and it may name a format like a selector. -/
theorem negotiate_none : negotiate none contentType = .ok format ↔
    ∃ value ∈ contentType, ofSelector? value = some format := by
  have empty : ofSelector? "" = none := by decide
  cases contentType with
  | none => simp [negotiate, empty]
  | some value =>
      simp only [negotiate, Option.filter_none, Option.getD_some, Option.mem_def,
        Option.some.injEq, exists_eq_left']
      split <;> simp_all

theorem negotiate_eq_error_iff : negotiate selector contentType = .error .unsupportedFormat ↔
    ∀ format, negotiate selector contentType ≠ .ok format := by
  rw [negotiate]
  split <;> simp

theorem eq_unsupportedFormat (failed : negotiate selector contentType = .error error) :
    error = .unsupportedFormat := by
  rw [negotiate] at failed
  split at failed
  · cases failed
  · cases failed
    rfl

end Format

namespace Message

variable {α : Type} [Message α] {selector other contentType : Option String} {body : List UInt8}
  {format otherFormat : Format} {message : α}

theorem read_ne_unsupported (format : Format) (body : List UInt8) :
    (read format body : Except CodecError α) ≠ .error .unsupportedFormat := by
  intro failed
  cases format with
  | json =>
      rw [read] at failed
      cases read_eq : Json.Read.body (shape (α := α)).read body <;> rw [read_eq] at failed <;>
        cases failed
  | compact =>
      rw [read] at failed
      cases read_eq : Wire.readMessage (fields (α := α)) empty body <;> rw [read_eq] at failed <;>
        cases failed

/-- What reading a body gives by its content type alone. -/
def content (contentType : Option String) (body : List UInt8) : Except CodecError α :=
  match contentType.bind Format.ofContentType? with
  | some declared => read declared body
  | none => .ok empty

/-- A body is read by its content type, and the negotiated format is put beside what is read. -/
theorem decode_eq (selector contentType : Option String) (body : List UInt8) :
    decode (α := α) selector contentType body =
      (Format.negotiate selector contentType).bind fun format =>
        (content contentType body).map fun message => (format, message) := by
  rw [decode, content]
  refine congrArg (Except.bind _) (funext fun format => ?_)
  cases contentType.bind Format.ofContentType? <;> rfl

theorem decode_of_negotiate (negotiated : Format.negotiate selector contentType = .ok format) :
    decode (α := α) selector contentType body =
      (content contentType body).map fun message => (format, message) := by
  rw [decode_eq, negotiated]
  rfl

/-- How reading a body comes apart into two choices. -/
structure Factors (α : Type) [Message α] : Prop where
  /-- That a format is not supported means that none was negotiated, whatever the body is. -/
  unsupported : ∀ selector contentType body,
    decode (α := α) selector contentType body = .error .unsupportedFormat ↔
      ∀ format, Format.negotiate selector contentType ≠ .ok format
  format : ∀ selector contentType body format (message : α),
    decode selector contentType body = .ok (format, message) →
      Format.negotiate selector contentType = .ok format
  /-- Another selector changes nothing but the format. -/
  message : ∀ selector other contentType body format otherFormat,
    Format.negotiate selector contentType = .ok format →
      Format.negotiate other contentType = .ok otherFormat →
        decode (α := α) other contentType body =
          (decode selector contentType body).map fun (_, message) => (otherFormat, message)
  /-- A selector that is not empty has to name the format itself. -/
  named : ∀ selector contentType format, selector ≠ "" →
    (Format.negotiate (some selector) contentType = .ok format ↔
      Format.IsShortName format selector ∨ Format.IsMediaType format selector)
  rejected : ∀ selector contentType body, selector ≠ "" →
    (∀ format, ¬Format.IsShortName format selector ∧ ¬Format.IsMediaType format selector) →
      decode (α := α) (some selector) contentType body = .error .unsupportedFormat
  unnamed : ∀ contentType body,
    decode (α := α) (some "") contentType body = decode none contentType body

theorem decode_eq_unsupported_iff :
    decode (α := α) selector contentType body = .error .unsupportedFormat ↔
      ∀ format, Format.negotiate selector contentType ≠ .ok format := by
  rw [← Format.negotiate_eq_error_iff]
  cases negotiated : Format.negotiate selector contentType with
  | error error =>
      rw [decode_eq, negotiated, Format.eq_unsupportedFormat negotiated]
      exact iff_of_true rfl rfl
  | ok format =>
      rw [decode_of_negotiate negotiated]
      apply iff_of_false
      · intro failed
        cases content_eq : content (α := α) contentType body with
        | error error =>
            rw [content_eq] at failed
            cases failed
            rw [content] at content_eq
            split at content_eq
            · exact read_ne_unsupported _ _ content_eq
            · cases content_eq
        | ok message =>
            rw [content_eq] at failed
            cases failed
      · intro failed
        cases failed

theorem negotiate_of_decode (decoded : decode selector contentType body = .ok (format, message)) :
    Format.negotiate selector contentType = .ok format := by
  rw [decode_eq] at decoded
  cases negotiated : Format.negotiate selector contentType with
  | error error =>
      rw [negotiated] at decoded
      cases decoded
  | ok chosen =>
      rw [negotiated] at decoded
      cases content_eq : content (α := α) contentType body with
      | error error =>
          simp [Except.bind, content_eq, Except.map] at decoded
      | ok message =>
          simp only [Except.bind, content_eq, Except.map, Except.ok.injEq, Prod.mk.injEq] at decoded
          rw [decoded.1]

theorem decode_other (negotiated : Format.negotiate selector contentType = .ok format)
    (negotiated' : Format.negotiate other contentType = .ok otherFormat) :
    decode (α := α) other contentType body =
      (decode selector contentType body).map fun (_, message) => (otherFormat, message) := by
  rw [decode_of_negotiate negotiated, decode_of_negotiate negotiated']
  cases content (α := α) contentType body <;> rfl

theorem negotiate_named_iff {selector : String} (named : selector ≠ "") :
    Format.negotiate (some selector) contentType = .ok format ↔
      Format.IsShortName format selector ∨ Format.IsMediaType format selector := by
  rw [Format.negotiate_named named, Format.ofSelector?_eq_some_iff]

/-- The selector decides about the format of the answer and the content type about reading the body,
and neither about the other. -/
theorem decode_factors (α : Type) [Message α] : Factors α where
  unsupported _ _ _ := decode_eq_unsupported_iff
  format _ _ _ _ _ decoded := negotiate_of_decode decoded
  message _ _ _ _ _ _ negotiated negotiated' := decode_other negotiated negotiated'
  named _ _ _ named := negotiate_named_iff named
  rejected _ _ _ named nameless := by
    rw [decode_eq_unsupported_iff]
    intro format negotiated
    exact not_or.mpr (nameless format) ((negotiate_named_iff named).mp negotiated)
  unnamed contentType body := by
    rw [decode_eq, decode_eq, Format.negotiate_unnamed rfl]

/-- A small short name with blanks around it selects the other format for the answer to a body that
its content type, written in capitals and with a parameter, says to be JSON. -/
theorem decode_factors_blanks :
    let contentType := some "Application/JSON ; charset=utf-8"
    let body := Utf8.encode "\x7b\x22uri\x22:\x22u\x22\x7d"
    " proto " ≠ "" ∧ Format.negotiate none contentType = .ok .json ∧
      Format.negotiate (some " proto ") contentType = .ok .compact ∧
      decode (some " proto ") contentType body = .ok (.compact, (⟨"u", []⟩ : LookupRequest)) := by
  intro contentType body
  have factors := decode_factors LookupRequest
  have named : " proto " ≠ "" := by decide
  have decoded : decode none contentType body = .ok (.json, (⟨"u", []⟩ : LookupRequest)) := by
    apply eq_ok_of_toOption
    decide +kernel
  have negotiated := factors.format none contentType body .json _ decoded
  have negotiated' : Format.negotiate (some " proto ") contentType = .ok .compact := by
    apply (factors.named " proto " contentType .compact named).mpr
    left
    apply Format.isShortName_iff.mpr
    decide
  refine ⟨named, negotiated, negotiated', ?_⟩
  rw [factors.message none (some " proto ") contentType body .json .compact negotiated negotiated',
    decoded]
  rfl

end Message

end LinkGuard
