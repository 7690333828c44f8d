import LinkGuard.Json.Literal
import LinkGuard.Json.Write
import LinkGuard.Proofs.Text.Utf8

/-!
# Reading written texts back

The machine for text literals is followed from state to state: bytes *lead* from one state to
another and collect bytes on the way, whatever was collected before, whatever follows and wherever
they stand. The written form of a character leads from the plain state back to it and collects the
character, whether it is escaped or stands for itself, and so the machine collects whole texts.
-/

namespace LinkGuard.Json.Literal

/-- Behind the bytes the machine has gone from one state to the other and collected `more`. -/
def Leads (state : State) (bytes more : List UInt8) (next : State) : Prop :=
  ∀ collected rest line column, ∃ line' column',
    run state collected (bytes ++ rest) line column =
      run next (more.reverse ++ collected) rest line' column'

namespace Leads

variable {first second third : State} {bytes others more further : List UInt8}

theorem nil (state : State) : Leads state [] [] state := by
  intro collected rest line column
  exact ⟨line, column, rfl⟩

theorem append (left : Leads first bytes more second) (right : Leads second others further third) :
    Leads first (bytes ++ others) (more ++ further) third := by
  intro collected rest line column
  rcases left collected (others ++ rest) line column with ⟨line₁, column₁, left_eq⟩
  rcases right (more.reverse ++ collected) rest line₁ column₁ with ⟨line₂, column₂, right_eq⟩
  refine ⟨line₂, column₂, ?_⟩
  rw [List.append_assoc, left_eq, right_eq, List.reverse_append, List.append_assoc]

theorem cons {byte : UInt8} (stepped : step first byte = .go second more)
    (leads : Leads second bytes further third) :
    Leads first (byte :: bytes) (more ++ further) third := by
  intro collected rest line column
  rcases leads (more.reverse ++ collected) rest (if byte = 0x0A then line + 1 else line)
    (if byte = 0x0A then 0 else column + 1) with ⟨line', column', leads_eq⟩
  refine ⟨line', column', ?_⟩
  rw [List.cons_append, run]
  simp only [stepped]
  rw [leads_eq, List.reverse_append, List.append_assoc]

theorem pass {byte : UInt8} (stepped : step first byte = .go second [])
    (leads : Leads second bytes more third) : Leads first (byte :: bytes) more third :=
  cons stepped leads

theorem collect {byte : UInt8} (stepped : step first byte = .go second more) :
    Leads first [byte] more second := by
  rw [← List.append_nil more]
  exact cons stepped (nil second)

theorem flatMap {α : Type} (written collected : α → List UInt8) {state : State} {values : List α}
    (each : ∀ value ∈ values, Leads state (written value) (collected value) state) :
    Leads state (values.flatMap written) (values.flatMap collected) state := by
  induction values with
  | nil => exact nil state
  | cons first rest ih =>
      simp only [List.flatMap_cons]
      apply append
      · exact each first List.mem_cons_self
      · exact ih fun value mem => each value (List.mem_cons_of_mem _ mem)

end Leads

theorem leads_byte {byte : UInt8} (notQuote : byte ≠ 0x22) (notBackslash : byte ≠ 0x5C)
    (notControl : ¬byte < 0x20) : Leads .plain [byte] [byte] .plain := by
  have stepped : step .plain byte = .go .plain [byte] := by
    simp only [step, notQuote, notBackslash, notControl, if_false]
  exact .collect stepped

theorem leads_bytes {bytes : List UInt8}
    (plain : ∀ byte ∈ bytes, byte ≠ 0x22 ∧ byte ≠ 0x5C ∧ ¬byte < 0x20) :
    Leads .plain bytes bytes .plain := by
  have each := Leads.flatMap ([·]) ([·]) fun byte mem =>
    leads_byte (plain byte mem).1 (plain byte mem).2.1 (plain byte mem).2.2
  simpa using each

theorem leads_encodeChar {character : Char} (notQuote : character ≠ '\x22')
    (notBackslash : character ≠ '\\') (notControl : ¬character.toNat < 0x20) :
    Leads .plain (Utf8.encodeChar character) (Utf8.encodeChar character) .plain := by
  apply leads_bytes
  intro byte mem
  rcases Utf8.mem_encodeChar mem with ⟨ascii, rfl⟩ | high
  · have code_eq : character.toNat.toUInt8.toNat = character.toNat :=
      Utf8.toNat_toUInt8 (by omega)
    refine ⟨?_, ?_, ?_⟩
    · intro quote
      apply notQuote
      apply Char.toNat_inj.mp
      rw [← code_eq, quote]
      rfl
    · intro backslash
      apply notBackslash
      apply Char.toNat_inj.mp
      rw [← code_eq, backslash]
      rfl
    · rw [UInt8.lt_iff_toNat_lt, code_eq]
      exact notControl
  · refine ⟨?_, ?_, ?_⟩
    · rintro rfl
      exact absurd high (by decide)
    · rintro rfl
      exact absurd high (by decide)
    · rw [UInt8.lt_iff_toNat_lt]
      have bound : (0x20 : UInt8).toNat = 0x20 := rfl
      omega

theorem leads_short {letter byte : UInt8} (short : shortEscape? letter = some byte) :
    Leads .plain [0x5C, letter] [byte] .plain := by
  have notUnicode : letter ≠ 0x75 := by
    rintro rfl
    cases short
  have stepped : step .escape letter = .go .plain [byte] := by
    simp only [step, notUnicode, if_false, short]
  exact .pass rfl (.collect stepped)

/-- The byte of a small hex digit. -/
def hexByte (value : Nat) : UInt8 :=
  (if value < 10 then 0x30 + value else 0x57 + value).toUInt8

theorem hexDigit_spec : ∀ value < 16, Utf8.encodeChar (hexDigit value) = [hexByte value] ∧
    hexValue? (hexByte value) = some value := by
  decide

theorem step_digit {byte : UInt8} {value digit owed : Nat}
    (isDigit : hexValue? byte = some digit) :
    step (.digits none (some value) (owed + 2)) byte =
      .go (.digits none (some (value * 16 + digit)) (owed + 1)) [] := by
  simp [step, isDigit]

/-- The last of four digits completes a character of the basic plane that is no half of a pair. -/
theorem step_lastDigit {byte : UInt8} {value digit : Nat} (isDigit : hexValue? byte = some digit)
    (single : value * 16 + digit < 0xD800) : step (.digits none (some value) 1) byte =
      .go .plain (Utf8.encodeChar (Char.ofNat (value * 16 + digit))) := by
  have notLead : ¬(0xD800 ≤ value * 16 + digit ∧ value * 16 + digit < 0xDC00) := by omega
  have notTrail : ¬(0xDC00 ≤ value * 16 + digit ∧ value * 16 + digit < 0xE000) := by omega
  simp [step, isDigit, complete, notLead, notTrail]

theorem leads_control {code : Nat} (control : code < 0x20) :
    Leads .plain (Utf8.encodeChars
        ['\\', 'u', '0', '0', hexDigit (code / 16), hexDigit (code % 16)])
      (Utf8.encodeChar (Char.ofNat code)) .plain := by
  have upper := hexDigit_spec (code / 16) (by omega)
  have lower := hexDigit_spec (code % 16) (by omega)
  have written : Utf8.encodeChars
      ['\\', 'u', '0', '0', hexDigit (code / 16), hexDigit (code % 16)] =
        [0x5C, 0x75, 0x30, 0x30, hexByte (code / 16), hexByte (code % 16)] := by
    simp only [Utf8.encodeChars, List.flatMap_cons, List.flatMap_nil, upper.1, lower.1]
    rfl
  have joined : (((0 * 16 + 0) * 16 + 0) * 16 + code / 16) * 16 + code % 16 = code := by omega
  have zero : hexValue? 0x30 = some 0 := by decide
  have last : step (.digits none (some (((0 * 16 + 0) * 16 + 0) * 16 + code / 16)) 1)
      (hexByte (code % 16)) = .go .plain (Utf8.encodeChar (Char.ofNat code)) := by
    rw [step_lastDigit lower.2 (by omega), joined]
  rw [written]
  apply Leads.pass rfl
  apply Leads.pass rfl
  apply Leads.pass (step_digit zero)
  apply Leads.pass (step_digit zero)
  apply Leads.pass (step_digit upper.2)
  exact .collect last

/-- The written form of a character is read as the character. -/
theorem leads_quoteChar (character : Char) :
    Leads .plain (Utf8.encodeChars (quoteChar character)) (Utf8.encodeChar character) .plain := by
  have short {letter : UInt8} (byte : UInt8) (escaped : shortEscape? letter = some byte) :
      Leads .plain [0x5C, letter] [byte] .plain := leads_short escaped
  by_cases quote : character = '\x22'
  · subst quote
    exact short 0x22 rfl
  by_cases backslash : character = '\\'
  · subst backslash
    exact short 0x5C rfl
  by_cases backspace : character = '\x08'
  · subst backspace
    exact short 0x08 rfl
  by_cases formFeed : character = '\x0c'
  · subst formFeed
    exact short 0x0C rfl
  by_cases newline : character = '\n'
  · subst newline
    exact short 0x0A rfl
  by_cases carriage : character = '\r'
  · subst carriage
    exact short 0x0D rfl
  by_cases tab : character = '\t'
  · subst tab
    exact short 0x09 rfl
  rw [quoteChar]
  simp only [quote, backslash, backspace, formFeed, newline, carriage, tab, if_false]
  by_cases control : character.toNat < 0x20
  · rw [if_pos control]
    have leads := leads_control control
    rwa [Char.ofNat_toNat] at leads
  · rw [if_neg control]
    simpa [Utf8.encodeChars] using leads_encodeChar quote backslash control

/-- A written text is read back from behind its opening quote. -/
theorem read_quoted (value : String) (rest : List UInt8) (cursor : Cursor)
    (here : cursor.rest = Utf8.encodeChars (value.toList.flatMap quoteChar) ++ 0x22 :: rest) :
    ∃ behind : Cursor, behind.rest = rest ∧ read cursor = .ok (value, behind) := by
  have leads : Leads .plain (Utf8.encodeChars (value.toList.flatMap quoteChar))
      (Utf8.encode value) .plain := by
    rw [Utf8.encodeChars, List.flatMap_assoc]
    exact .flatMap _ _ fun character _ => leads_quoteChar character
  rcases leads [] (0x22 :: rest) cursor.line cursor.column with ⟨line, column, leads_eq⟩
  refine ⟨⟨rest, line, column + 1⟩, rfl, ?_⟩
  have closes : run .plain ((Utf8.encode value).reverse ++ []) (0x22 :: rest) line column =
      .ok (Utf8.encode value, ⟨rest, line, column + 1⟩) := by
    simp [run, step]
  simp only [read, here, leads_eq, closes, Utf8.decode?_encode]

end LinkGuard.Json.Literal
