import LinkGuard.Duration
import Mathlib.Data.List.TakeWhile

/-!
# The grammar of durations

A written duration is a run of components, each a numeral with a unit right behind it. Numerals are
made of other characters than units, so a run can be taken apart in only one way, and the reading
loop finds it: each round takes the component in front, and what is left is shorter. So the loop
reads all runs of components and nothing else, and never takes more rounds than there are
characters.
-/

namespace LinkGuard.Duration

/-- Digits with at most one point among them, and at least one digit. -/
structure IsNumeral (written : List Char) : Prop where
  characters : ∀ character ∈ written, character.isDigit = true ∨ character = '.'
  points : written.count '.' ≤ 1
  digit : ∃ character ∈ written, character.isDigit = true

/-- The double nearest to a numeral: its digits, of which as many stand behind the point as there
are characters behind it. -/
def numeralValue (written : List Char) : Float :=
  Float.ofScientific (digitsValue (written.filter Char.isDigit)) true
    ((written.dropWhile (· ≠ '.')).drop 1).length

section Numerals

variable {written digits whole rest : List Char} {value : Float}

theorem isNumeralChar_iff {character : Char} :
    isNumeralChar character = true ↔ character.isDigit = true ∨ character = '.' := by
  rw [isNumeralChar, Bool.or_eq_true, beq_iff_eq]

theorem ne_point_of_isDigit {character : Char} (digit : character.isDigit = true) :
    character ≠ '.' := by
  rintro rfl
  cases digit

theorem isNumeral_digits (all : ∀ digit ∈ digits, digit.isDigit = true) :
    IsNumeral digits ↔ digits ≠ [] := by
  constructor
  · rintro ⟨_, _, digit, mem, _⟩
    exact List.ne_nil_of_mem mem
  · intro some
    have unpointed : '.' ∉ digits := fun mem => ne_point_of_isDigit (all _ mem) rfl
    rcases List.exists_mem_of_ne_nil _ some with ⟨digit, mem⟩
    refine ⟨fun character mem => .inl (all character mem), ?_, digit, mem, all digit mem⟩
    rw [List.count_eq_zero.mpr unpointed]
    exact Nat.zero_le 1

theorem isNumeral_point (all : ∀ digit ∈ whole, digit.isDigit = true) :
    IsNumeral (whole ++ '.' :: rest) ↔
      (∀ digit ∈ rest, digit.isDigit = true) ∧ whole ++ rest ≠ [] := by
  have unpointed : '.' ∉ whole := fun mem => ne_point_of_isDigit (all _ mem) rfl
  have points : (whole ++ '.' :: rest).count '.' = rest.count '.' + 1 := by
    rw [List.count_append, List.count_cons_self, List.count_eq_zero.mpr unpointed, Nat.zero_add]
  constructor
  · intro numeral
    have single := numeral.points
    rw [points] at single
    have last : '.' ∉ rest :=
      List.count_eq_zero.mp (Nat.le_zero.mp (Nat.le_of_succ_le_succ single))
    refine ⟨fun digit mem => ?_, ?_⟩
    · rcases numeral.characters digit (by simp [mem]) with isDigit | rfl
      · exact isDigit
      · exact absurd mem last
    · rintro none
      rcases List.append_eq_nil_iff.mp none with ⟨rfl, rfl⟩
      rcases numeral.digit with ⟨digit, mem, isDigit⟩
      exact ne_point_of_isDigit isDigit (List.mem_singleton.mp mem)
  · rintro ⟨fraction, some⟩
    have last : '.' ∉ rest := fun mem => ne_point_of_isDigit (fraction _ mem) rfl
    have each : ∀ digit ∈ whole ++ rest, digit.isDigit = true := by
      intro digit mem
      exact (List.mem_append.mp mem).elim (all digit) (fraction digit)
    rcases List.exists_mem_of_ne_nil _ some with ⟨digit, mem⟩
    refine ⟨fun character mem => ?_, ?_, digit, ?_, each digit mem⟩
    · rw [List.mem_append, List.mem_cons] at mem
      rcases mem with mem | rfl | mem
      · exact .inl (all character mem)
      · exact .inr rfl
      · exact .inl (fraction character mem)
    · rw [points, List.count_eq_zero.mpr last]
    · exact (List.mem_append.mp mem).elim (List.mem_append_left _)
        fun mem => List.mem_append_right _ (List.mem_cons_of_mem _ mem)

/-- Without a point the characters before it are all. -/
theorem numeral?_digits (all : ∀ digit ∈ digits, digit.isDigit = true) :
    numeral? digits = if digits ≠ [] then some (numeralValue digits) else none := by
  have whole_eq : digits.takeWhile Char.isDigit = digits := List.takeWhile_eq_self_iff.mpr all
  have behind_eq : digits.dropWhile Char.isDigit = [] := List.dropWhile_eq_nil_iff.mpr all
  have unpointed : digits.dropWhile (· ≠ '.') = [] :=
    List.dropWhile_eq_nil_iff.mpr fun digit mem => by simpa using ne_point_of_isDigit (all digit mem)
  have kept : digits.filter Char.isDigit = digits := List.filter_eq_self.mpr all
  simp only [numeral?, whole_eq, behind_eq, List.append_nil, numeralValue, unpointed, kept,
    List.drop_nil, List.length_nil, ne_eq, ite_not]

theorem numeral?_point (all : ∀ digit ∈ whole, digit.isDigit = true) :
    numeral? (whole ++ '.' :: rest) =
      if rest.all Char.isDigit = true ∧ whole ++ rest ≠ [] then
        some (numeralValue (whole ++ '.' :: rest))
      else none := by
  have whole_eq : (whole ++ '.' :: rest).takeWhile Char.isDigit = whole := by
    rw [List.takeWhile_append_of_pos all, List.takeWhile_cons_of_neg (by decide), List.append_nil]
  have behind_eq : (whole ++ '.' :: rest).dropWhile Char.isDigit = '.' :: rest := by
    rw [List.dropWhile_append_of_pos all, List.dropWhile_cons_of_neg (by decide)]
  have pointed : (whole ++ '.' :: rest).dropWhile (· ≠ '.') = '.' :: rest := by
    rw [List.dropWhile_append_of_pos fun digit mem => by
      simpa using ne_point_of_isDigit (all digit mem), List.dropWhile_cons_of_neg (by decide)]
  by_cases fraction : rest.all Char.isDigit = true
  · have kept : (whole ++ '.' :: rest).filter Char.isDigit = whole ++ rest := by
      rw [List.filter_append, List.filter_eq_self.mpr all, List.filter_cons_of_neg (by decide),
        List.filter_eq_self.mpr (List.all_eq_true.mp fraction)]
    simp only [numeral?, whole_eq, behind_eq, numeralValue, pointed, kept, List.drop_one,
      List.tail_cons, if_pos fraction, and_iff_right fraction, ne_eq, ite_not]
  · simp only [numeral?, behind_eq, fraction, Bool.false_eq_true, if_false, false_and]

/-- Of what is made of the characters of numerals, the numerals can be read. -/
theorem numeral?_eq_some_iff
    (characters : ∀ character ∈ written, isNumeralChar character = true) :
    numeral? written = some value ↔ IsNumeral written ∧ value = numeralValue written := by
  have digit_of_ne {character : Char} (mem : character ∈ written) (other : character ≠ '.') :
      character.isDigit = true :=
    (isNumeralChar_iff.mp (characters character mem)).resolve_right other
  by_cases pointed : '.' ∈ written
  · rcases List.eq_append_cons_of_mem pointed with ⟨whole, rest, rfl, unpointed⟩
    have all : ∀ digit ∈ whole, digit.isDigit = true := by
      intro digit mem
      exact digit_of_ne (List.mem_append_left _ mem) (ne_of_mem_of_not_mem mem unpointed)
    rw [numeral?_point all, isNumeral_point all, Option.ite_none_right_eq_some, Option.some.injEq,
      List.all_eq_true, eq_comm]
  · have all : ∀ digit ∈ written, digit.isDigit = true := by
      intro digit mem
      exact digit_of_ne mem (ne_of_mem_of_not_mem mem pointed)
    rw [numeral?_digits all, isNumeral_digits all, Option.ite_none_right_eq_some,
      Option.some.injEq, eq_comm]

end Numerals

/-- The units and the nanoseconds in each of them. -/
def units : List (List Char × Float) :=
  [(['n', 's'], 1.0), (['u', 's'], 1e3), (['\u00b5', 's'], 1e3), (['\u03bc', 's'], 1e3),
    (['m', 's'], 1e6), (['s'], 1e9), (['m'], 60e9), (['h'], 3600e9)]

section Units

variable {name : List Char} {scale : Float}

theorem unit?_eq_some_iff : unit? name = some scale ↔ (name, scale) ∈ units := by
  constructor
  · intro found
    unfold unit? at found
    split_ifs at found with nano micro milli second minute hour
    all_goals cases found
    · simp [units, nano]
    · rcases micro with micro | micro | micro
      all_goals simp [units, micro]
    · simp [units, milli]
    · simp [units, second]
    · simp [units, minute]
    · simp [units, hour]
  · intro mem
    simp only [units, List.mem_cons, Prod.mk.injEq, List.not_mem_nil, or_false] at mem
    rcases mem with ⟨rfl, rfl⟩ | ⟨rfl, rfl⟩ | ⟨rfl, rfl⟩ | ⟨rfl, rfl⟩ | ⟨rfl, rfl⟩ | ⟨rfl, rfl⟩ |
      ⟨rfl, rfl⟩ | ⟨rfl, rfl⟩
    all_goals rfl

theorem isNumeralChar_of_unit {character : Char} (unit : (name, scale) ∈ units)
    (mem : character ∈ name) : isNumeralChar character = false := by
  have each : ∀ entry ∈ units, entry.1.all (fun character => !isNumeralChar character) = true := by
    decide
  simpa using List.all_eq_true.mp (each _ unit) character mem

theorem ne_nil_of_unit (unit : (name, scale) ∈ units) : name ≠ [] := by
  have each : ∀ entry ∈ units, entry.1 ≠ [] := by decide
  exact each _ unit

end Units

/-- A numeral and a unit, with the nanoseconds in the unit. -/
structure Component where
  numeral : List Char
  unit : List Char
  scale : Float
  isNumeral : IsNumeral numeral
  isUnit : (unit, scale) ∈ units

namespace Component

/-- The characters of a component: there is nothing between the numeral and the unit. -/
def written (component : Component) : List Char :=
  component.numeral ++ component.unit

/-- The nanoseconds of a component. -/
def value (component : Component) : Float :=
  numeralValue component.numeral * component.scale

theorem isNumeralChar_of_mem (component : Component) {character : Char}
    (mem : character ∈ component.numeral) : isNumeralChar character = true :=
  isNumeralChar_iff.mpr (component.isNumeral.characters character mem)

theorem exists_written_eq_cons (component : Component) :
    ∃ first more, component.written = first :: more ∧ isNumeralChar first = true := by
  rcases component.isNumeral.digit with ⟨digit, mem, _⟩
  rcases List.exists_cons_of_ne_nil (List.ne_nil_of_mem mem) with ⟨first, more, numeral_eq⟩
  refine ⟨first, more ++ component.unit, by rw [written, numeral_eq, List.cons_append], ?_⟩
  exact component.isNumeralChar_of_mem (by simp [numeral_eq])

theorem two_le_length (component : Component) : 2 ≤ component.written.length := by
  rcases component.isNumeral.digit with ⟨digit, mem, _⟩
  have numeral := List.length_pos_of_mem mem
  have unit := List.length_pos_iff.mpr (ne_nil_of_unit component.isUnit)
  rw [written, List.length_append]
  omega

end Component

/-- The sum of components, added from left to right onto a sum. -/
def sumOnto (total : Float) (components : List Component) : Float :=
  components.foldl (fun sum component => sum + component.value) total

/-- One round of the loop: the nanoseconds of the component in front, and what is left behind it. -/
def round? (written : List Char) : Option (Float × List Char) :=
  let number := written.takeWhile isNumeralChar
  let behind := written.dropWhile isNumeralChar
  let name := behind.takeWhile fun character => !isNumeralChar character
  match numeral? number, unit? name with
  | some number, some unit =>
    some (number * unit, behind.dropWhile fun character => !isNumeralChar character)
  | _, _ => none

/-- The loop with a bound on its rounds: nothing if they do not suffice. -/
def rounds (total : Float) : Nat → List Char → Option (Option Float)
  | _, [] => some (some total)
  | 0, _ :: _ => none
  | bound + 1, first :: rest =>
    match round? (first :: rest) with
    | some (value, left) => rounds (total + value) bound left
    | none => some none

section Loop

variable {written rest : List Char} {components : List Component} {value total result : Float}

/-- Something else than the end of a unit stands behind it: the next component, or nothing. -/
theorem head?_flatMap_written (components : List Component) :
    ∀ first ∈ (components.flatMap Component.written).head?, isNumeralChar first = true := by
  cases components with
  | nil => simp
  | cons component components =>
      rcases component.exists_written_eq_cons with ⟨first, more, written_eq, isNumeral⟩
      simp [written_eq, isNumeral]

/-- A round takes the component in front if what follows does not go on its unit. -/
theorem round?_written (component : Component)
    (follows : ∀ first ∈ rest.head?, isNumeralChar first = true) :
    round? (component.written ++ rest) = some (component.value, rest) := by
  have numeral := numeral?_eq_some_iff (fun _ => component.isNumeralChar_of_mem)
    |>.mpr ⟨component.isNumeral, rfl⟩
  have unit := unit?_eq_some_iff.mpr component.isUnit
  have letters : ∀ character ∈ component.unit, (!isNumeralChar character) = true := by
    intro character mem
    rw [isNumeralChar_of_unit component.isUnit mem]
    rfl
  have rest_take : rest.takeWhile (fun character => !isNumeralChar character) = [] := by
    cases rest with
    | nil => rfl
    | cons first more => rw [List.takeWhile_cons_of_neg (by simp [follows first rfl])]
  have rest_drop : rest.dropWhile (fun character => !isNumeralChar character) = rest := by
    cases rest with
    | nil => rfl
    | cons first more => rw [List.dropWhile_cons_of_neg (by simp [follows first rfl])]
  rcases List.exists_cons_of_ne_nil (ne_nil_of_unit component.isUnit) with ⟨letter, more, unit_eq⟩
  have stops : ¬isNumeralChar letter = true := by
    simpa using letters letter (by simp [unit_eq])
  have number_eq : (component.written ++ rest).takeWhile isNumeralChar = component.numeral := by
    rw [Component.written, List.append_assoc,
      List.takeWhile_append_of_pos fun _ => component.isNumeralChar_of_mem, unit_eq,
      List.cons_append, List.takeWhile_cons_of_neg stops, List.append_nil]
  have behind_eq : (component.written ++ rest).dropWhile isNumeralChar =
      component.unit ++ rest := by
    rw [Component.written, List.append_assoc,
      List.dropWhile_append_of_pos fun _ => component.isNumeralChar_of_mem, unit_eq,
      List.cons_append, List.dropWhile_cons_of_neg stops]
  simp only [round?, number_eq, behind_eq, numeral, List.takeWhile_append_of_pos letters,
    List.dropWhile_append_of_pos letters, rest_take, rest_drop, List.append_nil, unit,
    Component.value]

/-- Whatever a round takes is a component. -/
theorem exists_of_round? (taken : round? written = some (value, rest)) :
    ∃ component : Component, written = component.written ++ rest ∧ value = component.value := by
  unfold round? at taken
  dsimp only at taken
  split at taken
  case h_1 number scale numeral unit =>
    cases taken
    have characters : ∀ character ∈ written.takeWhile isNumeralChar,
        isNumeralChar character = true := fun _ => List.mem_takeWhile_imp
    rcases (numeral?_eq_some_iff characters).mp numeral with ⟨isNumeral, rfl⟩
    refine ⟨⟨_, _, scale, isNumeral, unit?_eq_some_iff.mp unit⟩, ?_, rfl⟩
    rw [Component.written, List.append_assoc, List.takeWhile_append_dropWhile,
      List.takeWhile_append_dropWhile]
  case h_2 => cases taken

/-- Every round consumes at least one character. -/
theorem exists_consumed_of_round? (taken : round? written = some (value, rest)) :
    ∃ first more, written = first :: more ++ rest := by
  rcases exists_of_round? taken with ⟨component, rfl, _⟩
  rcases component.exists_written_eq_cons with ⟨first, more, written_eq, _⟩
  exact ⟨first, more, by rw [written_eq]⟩

theorem length_lt_of_round? (taken : round? written = some (value, rest)) :
    rest.length < written.length := by
  rcases exists_consumed_of_round? taken with ⟨first, more, rfl⟩
  simp only [List.cons_append, List.length_cons, List.length_append]
  omega

theorem sum?_cons (total : Float) (first : Char) (rest : List Char) :
    sum? total (first :: rest) =
      (round? (first :: rest)).bind fun taken => sum? (total + taken.1) taken.2 := by
  rw [sum?, round?]
  by_cases isNumeral : isNumeralChar first = true
  · simp only [isNumeral, if_true, List.takeWhile_cons_of_pos, List.dropWhile_cons_of_pos]
    cases numeral? (first :: rest.takeWhile isNumeralChar) with
    | none => rfl
    | some number =>
        cases unit? ((rest.dropWhile isNumeralChar).takeWhile fun character =>
          !isNumeralChar character) with
        | none => rfl
        | some scale => rfl
  · rw [if_neg isNumeral, List.takeWhile_cons_of_neg isNumeral]
    rfl

/-- The loop reads a run of components as their sum. -/
theorem sum?_flatMap_written (total : Float) (components : List Component) :
    sum? total (components.flatMap Component.written) = some (sumOnto total components) := by
  induction components generalizing total with
  | nil => rw [List.flatMap_nil, sum?, sumOnto, List.foldl_nil]
  | cons component components ih =>
      have taken := round?_written component (head?_flatMap_written components)
      rcases component.exists_written_eq_cons with ⟨first, more, written_eq, _⟩
      rw [List.flatMap_cons, written_eq, List.cons_append, sum?_cons, ← List.cons_append,
        ← written_eq, taken, Option.bind_some, ih, sumOnto, sumOnto, List.foldl_cons]

/-- The loop reads nothing but runs of components. -/
theorem exists_of_sum? (found : sum? total written = some result) :
    ∃ components : List Component, written = components.flatMap Component.written := by
  induction length_eq : written.length using Nat.strongRecOn generalizing total written with
  | ind length ih =>
      cases written with
      | nil => exact ⟨[], rfl⟩
      | cons first rest =>
          rw [sum?_cons, Option.bind_eq_some_iff] at found
          rcases found with ⟨⟨value, left⟩, taken, found⟩
          have shorter := length_lt_of_round? taken
          rcases ih left.length (length_eq ▸ shorter) found rfl with ⟨components, rfl⟩
          rcases exists_of_round? taken with ⟨component, written_eq, _⟩
          exact ⟨component :: components, written_eq⟩

/-- As many rounds as there are characters always suffice. -/
theorem rounds_eq (total : Float) {bound : Nat} (enough : written.length ≤ bound) :
    rounds total bound written = some (sum? total written) := by
  induction bound generalizing total written with
  | zero =>
      rw [List.length_eq_zero_iff.mp (Nat.le_zero.mp enough), rounds, sum?]
  | succ bound ih =>
      cases written with
      | nil => rw [rounds, sum?]
      | cons first rest =>
          rw [rounds, sum?_cons]
          split
          case h_1 value left taken =>
            have shorter := length_lt_of_round? taken
            rw [taken, Option.bind_some]
            exact ih _ (by omega)
          case h_2 stopped => rw [stopped, Option.bind_none]

end Loop

end LinkGuard.Duration
