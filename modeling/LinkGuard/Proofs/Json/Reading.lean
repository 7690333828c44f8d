import LinkGuard.Json.Read
import LinkGuard.Proofs.Json.Literal

/-!
# Reading written JSON back

A reader *takes* bytes for a value if it gives this value in front of them and stands behind them
afterwards. Where the bytes are in a body matters for messages alone, so the notion speaks about
what is left to read and not about places. Taking composes along the steps of a reader, and whether
a written value is read back becomes a question about its parts.

Numbers have no end of their own. A value is therefore only read back in front of something that
ends it, as the signs behind items and members do.
-/

namespace LinkGuard.Json

/-- In front of the rest the reader gives the value and leaves the rest. -/
def Takes {α : Type} (read : Reader α) (bytes rest : List UInt8) (value : α) : Prop :=
  ∀ cursor : Cursor, cursor.rest = bytes ++ rest →
    ∃ behind : Cursor, behind.rest = rest ∧ read cursor = .ok (value, behind)

/-- The rest is empty or begins with a sign that stands behind values. -/
def Ends (rest : List UInt8) : Prop :=
  ∀ byte ∈ rest.head?, byte = 0x2C ∨ byte = 0x5D ∨ byte = 0x7D

/-- A byte that a value can begin with: neither a blank nor the end of a list. -/
def IsFirst (byte : UInt8) : Prop :=
  Cursor.isBlank byte = false ∧ byte ≠ 0x5D

/-- The reader reads the bytes as the value. -/
structure Reads {α : Type} (read : Reader α) (bytes : List UInt8) (value : α) : Prop where
  begins : ∃ byte tail, bytes = byte :: tail ∧ IsFirst byte
  takes : ∀ rest, Ends rest → Takes read bytes rest value

namespace Takes

variable {α β : Type} {read : Reader α} {bytes first second rest : List UInt8} {value : α}

theorem pure (value : α) (rest : List UInt8) : Takes (Pure.pure value) [] rest value := by
  intro cursor here
  exact ⟨cursor, here, rfl⟩

theorem bind {next : α → Reader β} {result : β} (takes : Takes read first (second ++ rest) value)
    (continues : Takes (next value) second rest result) :
    Takes (read >>= next) (first ++ second) rest result := by
  intro cursor here
  rcases takes cursor (by rw [here, List.append_assoc]) with ⟨middle, middle_rest, read_eq⟩
  rcases continues middle middle_rest with ⟨behind, behind_rest, next_eq⟩
  refine ⟨behind, behind_rest, ?_⟩
  simp only [Bind.bind, StateT.bind, read_eq, Except.bind, next_eq]

/-- A reader that passes nothing leaves the bytes to the next one. -/
theorem look {next : α → Reader β} {result : β} (takes : Takes read [] (bytes ++ rest) value)
    (continues : Takes (next value) bytes rest result) :
    Takes (read >>= next) bytes rest result :=
  bind takes continues

/-- What follows passes nothing more. -/
theorem settle {next : α → Reader β} {result : β} (takes : Takes read bytes rest value)
    (continues : Takes (next value) [] rest result) :
    Takes (read >>= next) bytes rest result := by
  rw [← List.append_nil bytes]
  exact bind takes continues

theorem peek (rest : List UInt8) : Takes Reader.peek [] rest rest.head? := by
  intro cursor here
  refine ⟨cursor, here, ?_⟩
  simp only [Reader.peek, here, List.nil_append]

theorem advance (byte : UInt8) (rest : List UInt8) : Takes Reader.advance [byte] rest () := by
  intro cursor here
  refine ⟨cursor.advance, ?_, rfl⟩
  simp only [Cursor.advance, here, List.cons_append, List.nil_append]
  split <;> rfl

theorem next (byte : UInt8) (rest : List UInt8) : Takes Reader.next [byte] rest (some byte) := by
  intro cursor here
  rcases advance byte rest cursor here with ⟨behind, behind_rest, advance_eq⟩
  refine ⟨behind, behind_rest, ?_⟩
  cases advance_eq
  simp only [Reader.next, here, List.cons_append, List.head?_cons]

/-- Passing a byte leaves the bytes behind it to the next reader. -/
theorem advance_then {next : Reader α} {byte : UInt8} (continues : Takes next bytes rest value) :
    Takes (do Reader.advance; next) (byte :: bytes) rest value :=
  bind (advance byte _) continues

theorem remaining (rest : List UInt8) : Takes Reader.remaining [] rest rest.length := by
  intro cursor here
  refine ⟨cursor, here, ?_⟩
  simp only [Reader.remaining, here, List.nil_append]

theorem peekToken {byte : UInt8} (visible : Cursor.isBlank byte = false) (rest : List UInt8) :
    Takes Reader.peekToken [] (byte :: rest) (some byte) := by
  intro cursor here
  have notNewline : byte ≠ 0x0A := by
    rintro rfl
    cases visible
  have skipped : cursor.skipBlanks.rest = byte :: rest := by
    simp only [Cursor.skipBlanks, here, List.nil_append, Cursor.skipBlanks.go, notNewline,
      if_false, visible, Bool.false_eq_true]
  refine ⟨cursor.skipBlanks, skipped, ?_⟩
  simp only [Reader.peekToken, skipped, List.head?_cons]

theorem peekToken_end : Takes Reader.peekToken [] [] none := by
  intro cursor here
  have skipped : cursor.skipBlanks.rest = [] := by
    simp only [Cursor.skipBlanks, here, List.append_nil, Cursor.skipBlanks.go]
  refine ⟨cursor.skipBlanks, skipped, ?_⟩
  simp only [Reader.peekToken, skipped, List.head?_nil]

theorem run_eq (takes : Takes read bytes [] value) :
    StateT.run' read (Cursor.start bytes) = .ok value := by
  rcases takes (Cursor.start bytes) (List.append_nil bytes).symm with ⟨behind, _, read_eq⟩
  rw [StateT.run'_eq, StateT.run, read_eq]
  rfl

theorem valueToken {byte : UInt8} (visible : Cursor.isBlank byte = false) (rest : List UInt8) :
    Takes Read.valueToken [] (byte :: rest) byte :=
  look (peekToken visible rest) (pure byte _)

end Takes

section Texts

variable {α : Type}

theorem encode_text (value : String) :
    Utf8.encode (text value) =
      0x22 :: (Utf8.encodeChars (value.toList.flatMap quoteChar) ++ [0x22]) := by
  simp only [Utf8.encode, text, String.toList_ofList, Utf8.encodeChars, List.flatMap_append,
    List.flatMap_cons, List.flatMap_nil, List.append_nil]
  rfl

theorem isFirst_quote : IsFirst 0x22 :=
  ⟨rfl, by decide⟩

theorem takes_literal (value : String) (rest : List UInt8) :
    Takes Literal.read (Utf8.encodeChars (value.toList.flatMap quoteChar) ++ [0x22]) rest
      value := by
  intro cursor here
  apply Literal.read_quoted value rest cursor
  rw [here, List.append_assoc]
  rfl

theorem takes_textCalled (expected value : String) (rest : List UInt8) :
    Takes (Read.textCalled expected) (Utf8.encode (text value)) rest value := by
  rw [encode_text]
  rw [Read.textCalled]
  apply Takes.look (Takes.valueToken isFirst_quote.1 _)
  rw [if_pos rfl]
  exact Takes.advance_then (takes_literal value rest)

theorem reads_text (value : String) : Reads Read.text (Utf8.encode (text value)) value where
  begins := ⟨0x22, _, encode_text value, isFirst_quote⟩
  takes rest _ := takes_textCalled _ value rest

theorem takes_parsed {expected written : String} {parse : String → Except Problem α} {value : α}
    (parses : parse written = .ok value) (rest : List UInt8) :
    Takes (Read.parsed expected parse) (Utf8.encode (text written)) rest value := by
  rw [Read.parsed]
  apply Takes.settle (takes_textCalled _ written rest)
  rw [parses]
  exact Takes.pure value rest

theorem reads_variant {known : List String} {ofName? : String → Option α} {name : String}
    {value : α} (named : ofName? name = some value) :
    Reads (Read.variant known ofName?) (Utf8.encode (text name)) value where
  begins := ⟨0x22, _, encode_text name, isFirst_quote⟩
  takes rest _ := by
    rw [Read.variant]
    rw [encode_text]
    apply Takes.look (Takes.valueToken isFirst_quote.1 _)
    rw [if_pos rfl, ← encode_text]
    exact takes_parsed (by rw [named]) rest

end Texts

section Lists

variable {α : Type} {read : Reader α} {written : α → String} {values : List α}

theorem takes_hasItem_end (first : Bool) (rest : List UInt8) :
    Takes (Read.hasItem first) [] (0x5D :: rest) false := by
  rw [Read.hasItem]
  apply Takes.look (Takes.peekToken rfl _)
  exact Takes.pure false _

theorem takes_hasItem_first {byte : UInt8} (begins : IsFirst byte) (rest : List UInt8) :
    Takes (Read.hasItem true) [] (byte :: rest) true := by
  rw [Read.hasItem]
  apply Takes.look (Takes.peekToken begins.1 _)
  simp only [begins.2, if_false, if_true]
  exact Takes.pure true _

theorem takes_hasItem_next {byte : UInt8} (begins : IsFirst byte) (rest : List UInt8) :
    Takes (Read.hasItem false) [0x2C] (byte :: rest) true := by
  rw [Read.hasItem]
  apply Takes.look (Takes.peekToken rfl _)
  apply Takes.advance_then
  apply Takes.look (Takes.peekToken begins.1 _)
  simp only [begins.2, if_false]
  exact Takes.pure true _

theorem takes_endList (rest : List UInt8) : Takes Read.endList [0x5D] rest () := by
  rw [Read.endList]
  apply Takes.look (Takes.peekToken rfl _)
  exact Takes.advance 0x5D rest

theorem ends_bracket (rest : List UInt8) : Ends (0x5D :: rest) := by
  intro byte head
  exact .inr (.inl (Option.some.inj head).symm)

theorem ends_brace (rest : List UInt8) : Ends (0x7D :: rest) := by
  intro byte head
  exact .inr (.inr (Option.some.inj head).symm)

/-- The bytes of written values that follow another one. -/
def following (written : α → String) (values : List α) : List UInt8 :=
  values.flatMap fun value => 0x2C :: Utf8.encode (written value)

theorem following_cons (written : α → String) (value : α) (values : List α) :
    following written (value :: values) =
      [0x2C] ++ (Utf8.encode (written value) ++ following written values) :=
  List.flatMap_cons

theorem ends_following (written : α → String) (values : List α) {rest : List UInt8}
    (ends : Ends rest) : Ends (following written values ++ rest) := by
  cases values with
  | nil => exact ends
  | cons value values =>
      intro byte head
      exact .inl (Option.some.inj head).symm

theorem length_le_length_following (written : α → String) (values : List α) :
    values.length ≤ (following written values).length := by
  induction values with
  | nil => exact Nat.le_refl 0
  | cons value values ih =>
      simp only [following, List.flatMap_cons, List.length_append, List.length_cons] at ih ⊢
      omega

theorem encode_intercalate (value : α) (values : List α) :
    Utf8.encode (",".intercalate ((value :: values).map written)) =
      Utf8.encode (written value) ++ following written values := by
  induction values generalizing value with
  | nil => simp [following]
  | cons next values ih =>
      have tail := ih next
      simp only [List.map_cons] at tail ⊢
      rw [String.intercalate_cons_cons, Utf8.encode_append, Utf8.encode_append, tail,
        List.append_assoc]
      rfl

/-- Written values are no more than the bytes up to the sign behind them. -/
theorem length_lt_remaining (written : α → String) (values : List α) (close : UInt8)
    (rest : List UInt8) :
    values.length <
      (Utf8.encode (",".intercalate (values.map written)) ++ [close] ++ rest).length + 1 := by
  cases values with
  | nil => exact Nat.succ_pos _
  | cons value values =>
      have bound := length_le_length_following written values
      rw [encode_intercalate]
      simp only [List.length_append, List.length_cons, List.length_nil]
      omega

/-- Behind the first item a list is read up to its end. -/
theorem takes_items_following {fuel : Nat} {taken : List α} (some : taken ≠ [])
    (each : ∀ value ∈ values, Reads read (Utf8.encode (written value)) value)
    (enough : values.length < fuel) (rest : List UInt8) :
    Takes (Read.items read fuel taken) (following written values) (0x5D :: rest)
      (taken.reverse ++ values) := by
  induction values generalizing fuel taken with
  | nil =>
      cases fuel with
      | zero => exact absurd enough (Nat.not_lt_zero _)
      | succ fuel =>
          rw [Read.items]
          apply Takes.look (takes_hasItem_end _ rest)
          rw [List.append_nil]
          exact Takes.pure _ _
  | cons value values ih =>
      cases fuel with
      | zero => exact absurd enough (Nat.not_lt_zero _)
      | succ fuel =>
          have reads := each value List.mem_cons_self
          rcases reads.begins with ⟨byte, tail, written_eq, isFirst⟩
          have notFirst : taken.isEmpty = false := List.isEmpty_eq_false_iff.mpr some
          have next : Takes (Read.hasItem false) [0x2C]
              (Utf8.encode (written value) ++ following written values ++ 0x5D :: rest) true := by
            rw [written_eq]
            exact takes_hasItem_next isFirst _
          have item := reads.takes _ (ends_following written values (ends_bracket rest))
          have others := ih (List.cons_ne_nil value taken)
            (fun other mem => each other (List.mem_cons_of_mem _ mem))
            (Nat.lt_of_succ_lt_succ enough)
          rw [List.reverse_cons, List.append_assoc] at others
          rw [following_cons]
          rw [Read.items]
          rw [notFirst]
          apply Takes.bind next
          apply Takes.bind item
          exact others

theorem encode_list (values : List α) :
    Utf8.encode (list (values.map written)) =
      0x5B :: (Utf8.encode (",".intercalate (values.map written)) ++ [0x5D]) := by
  simp only [list, Utf8.encode_append]
  rfl

theorem takes_items {fuel : Nat}
    (each : ∀ value ∈ values, Reads read (Utf8.encode (written value)) value)
    (enough : values.length < fuel) (rest : List UInt8) :
    Takes (Read.items read fuel []) (Utf8.encode (",".intercalate (values.map written)))
      (0x5D :: rest) values := by
  cases fuel with
  | zero => exact absurd enough (Nat.not_lt_zero _)
  | succ fuel =>
      cases values with
      | nil =>
          rw [Read.items]
          apply Takes.look (takes_hasItem_end _ rest)
          exact Takes.pure _ _
      | cons value values =>
          have reads := each value List.mem_cons_self
          rcases reads.begins with ⟨byte, tail, written_eq, isFirst⟩
          have next : Takes (Read.hasItem true) []
              (Utf8.encode (written value) ++ following written values ++ 0x5D :: rest) true := by
            rw [written_eq]
            exact takes_hasItem_first isFirst _
          have item := reads.takes _ (ends_following written values (ends_bracket rest))
          have others := takes_items_following (List.cons_ne_nil value [])
            (fun other mem => each other (List.mem_cons_of_mem _ mem))
            (Nat.lt_of_succ_lt_succ enough) rest
          rw [encode_intercalate]
          rw [Read.items]
          apply Takes.look next
          apply Takes.bind item
          exact others

/-- A written list is read back if its items are. -/
theorem reads_list (each : ∀ value ∈ values, Reads read (Utf8.encode (written value)) value) :
    Reads (Read.list read) (Utf8.encode (list (values.map written))) values where
  begins := ⟨0x5B, _, encode_list values, rfl, by decide⟩
  takes rest _ := by
    have enough := length_lt_remaining written values 0x5D rest
    rw [encode_list]
    rw [Read.list]
    apply Takes.look (Takes.valueToken rfl _)
    rw [if_pos rfl]
    apply Takes.advance_then
    apply Takes.look (Takes.remaining _)
    apply Takes.bind (takes_items each enough rest)
    exact Takes.settle (takes_endList rest) (Takes.pure values rest)

end Lists

theorem body_of_reads {α : Type} {read : Reader α} {bytes : List UInt8} {value : α}
    (reads : Reads read bytes value) : Read.body read bytes = .ok value := by
  have ends : Ends [] := by
    intro byte head
    cases head
  rw [Read.body]
  apply Takes.run_eq
  apply Takes.settle (reads.takes [] ends)
  apply Takes.look Takes.peekToken_end
  exact Takes.pure value []

end LinkGuard.Json
