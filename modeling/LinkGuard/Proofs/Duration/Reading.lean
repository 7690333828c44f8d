import LinkGuard.Proofs.Duration.Grammar

/-!
# Which texts are durations

Reading a duration follows the grammar of runs of components, with a plus sign in front of them or
none. What follows the grammar is refused only for a sum that is too large, and every refusal
carries the text as it was given.

The sign is passed before the loop begins, and the loop does not ask whether it has found any
component. So a sign alone is read as well, as no time at all. It is the only text outside the
grammar that is read.
-/

namespace LinkGuard.Duration

variable {text : String} {characters : List Char} {components : List Component}
  {duration : Duration}

/-- The characters are one or more components behind a plus sign or nothing. -/
def Spells (characters : List Char) (components : List Component) : Prop :=
  components ≠ [] ∧ ∃ sign, (sign = [] ∨ sign = ['+']) ∧
    characters = sign ++ components.flatMap Component.written

/-- The text is read as the grammar says: it is refused if it does not follow the grammar or its sum
is too large, and only then. -/
structure ReadsGrammar (text : String) : Prop where
  zero : Text.trimBlanks text.toList = [] ∨ Text.trimBlanks text.toList = ['0'] →
    parse text = .ok Duration.zero
  follows : ∀ duration, parse text = .ok duration →
    Text.trimBlanks text.toList = [] ∨ Text.trimBlanks text.toList = ['0'] ∨
      ∃ components, Spells (Text.trimBlanks text.toList) components
  accepts : ∀ components, Spells (Text.trimBlanks text.toList) components →
    ((∃ duration, parse text = .ok duration) ↔
      (sumOnto 0.0 components).isFinite = true ∧ sumOnto 0.0 components ≤ limit)
  carries : ∀ error, parse text = .error error → error.written = text

/-- Each round of the loop consumes at least one character, and so the loop ends on every text. -/
structure LoopEnds : Prop where
  consumes : ∀ written value rest, round? written = some (value, rest) →
    ∃ first more, written = first :: more ++ rest
  ends : ∀ total written, rounds total written.length written = some (sum? total written)

theorem parse_eq (filled : Text.trimBlanks text.toList ≠ [])
    (notZero : Text.trimBlanks text.toList ≠ ['0']) :
    parse text =
      match sum? 0.0 (unsigned (Text.trimBlanks text.toList)) with
      | none => .error ⟨text⟩
      | some total =>
        if total.isFinite ∧ total ≤ limit then .ok ⟨total.round.toUInt64.toNat⟩
        else .error ⟨text⟩ := by
  rw [parse]
  exact if_neg (not_or.mpr ⟨filled, notZero⟩)

/-- Components do not begin with a sign, so it is taken for one wherever it stands in front. -/
theorem spells_iff : Spells characters components ↔
    components ≠ [] ∧ unsigned characters = components.flatMap Component.written := by
  constructor
  · rintro ⟨some, sign, rfl | rfl, rfl⟩
    · refine ⟨some, ?_⟩
      have follows := head?_flatMap_written components
      rw [List.nil_append]
      unfold unsigned
      split
      case h_1 more written_eq =>
        rw [written_eq] at follows
        cases follows '+' rfl
      case h_2 => rfl
    · exact ⟨some, rfl⟩
  · rintro ⟨some, unsigned_eq⟩
    unfold unsigned at unsigned_eq
    split at unsigned_eq
    case h_1 rest => exact ⟨some, ['+'], .inr rfl, congrArg ('+' :: ·) unsigned_eq⟩
    case h_2 => exact ⟨some, [], .inl rfl, unsigned_eq⟩

theorem unsigned_eq_nil (empty : unsigned characters = []) :
    characters = [] ∨ characters = ['+'] := by
  unfold unsigned at empty
  split at empty
  case h_1 rest => exact .inr (congrArg ('+' :: ·) empty)
  case h_2 => exact .inl empty

theorem two_le_length_of_spells (spells : Spells characters components) :
    2 ≤ characters.length := by
  rcases spells with ⟨some, sign, _, rfl⟩
  rcases List.exists_cons_of_ne_nil some with ⟨component, others, rfl⟩
  have two_le := component.two_le_length
  simp only [List.flatMap_cons, List.length_append]
  omega

theorem parse_of_spells (spells : Spells (Text.trimBlanks text.toList) components) :
    parse text =
      if (sumOnto 0.0 components).isFinite ∧ sumOnto 0.0 components ≤ limit then
        .ok ⟨(sumOnto 0.0 components).round.toUInt64.toNat⟩
      else .error ⟨text⟩ := by
  have two_le := two_le_length_of_spells spells
  have filled : Text.trimBlanks text.toList ≠ [] := by
    intro empty
    rw [empty] at two_le
    cases two_le
  have notZero : Text.trimBlanks text.toList ≠ ['0'] := by
    intro zero
    rw [zero] at two_le
    exact absurd two_le (by decide)
  rw [parse_eq filled notZero, (spells_iff.mp spells).2, sum?_flatMap_written]

theorem parse_of_sign (sign : Text.trimBlanks text.toList = ['+']) :
    ∃ duration, parse text = .ok duration := by
  refine ⟨⟨(0.0 : Float).round.toUInt64.toNat⟩, ?_⟩
  rw [parse_eq (by simp [sign]) (by simp [sign]), sign]
  have found : sum? 0.0 (unsigned ['+']) = some 0.0 := sum?_flatMap_written 0.0 []
  rw [found]
  exact if_pos (by decide +kernel)

theorem not_spells_sign : ¬Spells ['+'] components := by
  intro spells
  exact absurd (two_le_length_of_spells spells) (by decide)

/-- What is read is empty, a zero, a run of components behind a sign or nothing, or a sign alone. -/
theorem follows_of_parse (read : parse text = .ok duration) :
    Text.trimBlanks text.toList = [] ∨ Text.trimBlanks text.toList = ['0'] ∨
      Text.trimBlanks text.toList = ['+'] ∨
        ∃ components, Spells (Text.trimBlanks text.toList) components := by
  by_cases filled : Text.trimBlanks text.toList ≠ [] ∧ Text.trimBlanks text.toList ≠ ['0']
  · rw [parse_eq filled.1 filled.2] at read
    split at read
    case h_1 => cases read
    case h_2 total found =>
      rcases exists_of_sum? found with ⟨components, unsigned_eq⟩
      rcases components with _ | ⟨component, others⟩
      · rcases unsigned_eq_nil unsigned_eq with empty | sign
        · exact .inl empty
        · exact .inr (.inr (.inl sign))
      · exact .inr (.inr (.inr ⟨_, spells_iff.mpr ⟨List.cons_ne_nil _ _, unsigned_eq⟩⟩))
  · rw [not_and_or, not_not, not_not] at filled
    exact filled.imp_right .inl

theorem written_of_parse {error : Invalid} (refused : parse text = .error error) :
    error.written = text := by
  unfold parse at refused
  dsimp only at refused
  split_ifs at refused
  split at refused
  case h_1 =>
    cases refused
    rfl
  case h_2 =>
    split_ifs at refused
    cases refused
    rfl

theorem readsGrammar_of_ne (notSign : Text.trimBlanks text.toList ≠ ['+']) :
    ReadsGrammar text where
  zero short := if_pos short
  follows duration read := by
    rcases follows_of_parse read with empty | zero | sign | spelled
    · exact .inl empty
    · exact .inr (.inl zero)
    · exact absurd sign notSign
    · exact .inr (.inr spelled)
  accepts components spells := by
    rw [parse_of_spells spells]
    split
    case isTrue holds => exact ⟨fun _ => holds, fun _ => ⟨_, rfl⟩⟩
    case isFalse exceeds =>
      constructor
      · rintro ⟨_, read⟩
        cases read
      · intro holds
        exact absurd holds exceeds
  carries _ := written_of_parse

theorem not_readsGrammar_of_sign (sign : Text.trimBlanks text.toList = ['+']) :
    ¬ReadsGrammar text := by
  intro reads
  rcases parse_of_sign sign with ⟨duration, read⟩
  have follows := reads.follows duration read
  rw [sign] at follows
  rcases follows with empty | zero | ⟨components, spells⟩
  · cases empty
  · exact absurd zero (by decide)
  · exact not_spells_sign spells

/-- Every text but a sign alone is read as the grammar says, and the loop ends on all of them. -/
theorem readsGrammar_iff (text : String) :
    (ReadsGrammar text ↔ Text.trimBlanks text.toList ≠ ['+']) ∧ LoopEnds := by
  refine ⟨⟨fun reads sign => ?_, readsGrammar_of_ne⟩, ?_, ?_⟩
  · exact not_readsGrammar_of_sign sign reads
  · intro written value rest taken
    exact exists_consumed_of_round? taken
  · intro total written
    exact rounds_eq total (Nat.le_refl _)

/-- A sign alone is read, but there is no component behind it. -/
theorem sign_without_components : (∃ duration, parse "+" = .ok duration) ∧ ¬ReadsGrammar "+" := by
  have sign : Text.trimBlanks "+".toList = ['+'] := by decide
  exact ⟨parse_of_sign sign, not_readsGrammar_of_sign sign⟩

end LinkGuard.Duration
