import LinkGuard.Json.Record

/-!
# What readers promise

Whatever bytes a body holds, a reader only gives values of a certain kind. Such promises are made
for the parts and kept by the ways of combining readers; a record keeps its promise if the empty
record has it and every member, read into a record that has it, gives one that has it again.
-/

namespace LinkGuard.Json

variable {α β : Type}

/-- All values that the reader gives have the property. -/
def Ensures (read : Reader α) (holds : α → Prop) : Prop :=
  ∀ cursor value behind, read cursor = .ok (value, behind) → holds value

namespace Ensures

variable {read : Reader α} {holds : α → Prop} {kept : β → Prop}

theorem pure {value : α} (here : holds value) : Ensures (Pure.pure value) holds := by
  intro cursor other behind read_eq
  cases read_eq
  exact here

theorem bind {next : α → Reader β} (first : Ensures read holds)
    (second : ∀ value, holds value → Ensures (next value) kept) : Ensures (read >>= next) kept := by
  intro cursor value behind read_eq
  simp only [Bind.bind, StateT.bind] at read_eq
  cases first_eq : read cursor with
  | error error =>
      rw [first_eq] at read_eq
      cases read_eq
  | ok passed =>
      rw [first_eq] at read_eq
      exact second passed.1 (first cursor passed.1 passed.2 first_eq) passed.2 value behind read_eq

theorem any (read : Reader α) : Ensures read fun _ => True :=
  fun _ _ _ _ => trivial

/-- Nothing has to be known about a value to go on from it. -/
theorem andThen {next : α → Reader β} (second : ∀ value, Ensures (next value) kept) :
    Ensures (read >>= next) kept :=
  bind (any read) fun value _ => second value

theorem fail (problem : Problem) : Ensures (Reader.fail problem) holds := by
  intro cursor value behind read_eq
  cases read_eq

theorem failAhead (problem : Problem) : Ensures (Reader.failAhead problem) holds := by
  intro cursor value behind read_eq
  cases read_eq

theorem wrongType (byte : UInt8) (expected : String) :
    Ensures (Read.wrongType byte expected) holds := by
  have named {found : Found} : Ensures (do
      let found ← Pure.pure found
      Reader.fail (Problem.wrongType found expected)) holds := andThen fun _ => fail _
  rw [Read.wrongType]
  simp only
  split
  · exact andThen fun _ => andThen fun _ => named
  split
  · exact andThen fun _ => andThen fun _ => named
  split
  · exact andThen fun _ => andThen fun _ => named
  split
  · exact andThen fun _ => andThen fun _ => named
  split
  · exact andThen fun _ => named
  split
  · exact andThen fun _ => andThen fun _ => named
  split
  · exact named
  split
  · exact named
  · exact andThen fun _ => fail _

theorem parsed {expected : String} {parse : String → Except Problem α}
    (each : ∀ written value, parse written = .ok value → holds value) :
    Ensures (Read.parsed expected parse) holds := by
  rw [Read.parsed]
  apply andThen
  intro written
  split
  case h_1 value parse_eq => exact pure (each written value parse_eq)
  case h_2 => exact fail _

theorem optional (some : Ensures read holds) :
    Ensures (Read.optional read) fun found => ∀ value ∈ found, holds value := by
  rw [Read.optional]
  apply andThen
  intro token
  split
  · apply andThen
    intro _
    apply andThen
    intro _
    apply pure
    intro value mem
    cases mem
  · refine bind some fun value here => ?_
    apply pure
    intro other mem
    cases mem
    exact here

end Ensures

/-- A record that has the property has it again whatever member is read into it. -/
def Shape.Preserves (shape : Shape α) (holds : α → Prop) : Prop :=
  ∀ member ∈ shape.members, ∀ record, holds record → Ensures (member.read record) holds

/-- The property holds of the empty record and is kept by all members. -/
structure Shape.Keeps (shape : Shape α) (holds : α → Prop) : Prop where
  empty : holds shape.empty
  members : shape.Preserves holds

theorem Shape.ensures_failRecord {holds : α → Prop} (close : UInt8) (problem : Problem) :
    Ensures (Shape.failRecord close problem : Reader α) holds := by
  rw [Shape.failRecord]
  apply Ensures.andThen
  intro token
  split
  · exact Ensures.andThen fun _ => Ensures.fail _
  · exact Ensures.fail _

namespace Shape.Preserves

variable {shape : Shape α} {holds : α → Prop}

theorem fromList {index : Nat} {first : Bool} {record : α} {members : List (Member α)}
    (preserves : shape.Preserves holds) (here : holds record)
    (inside : ∀ member ∈ members, member ∈ shape.members) :
    Ensures (shape.fromList index first record members) holds := by
  induction members generalizing index first record with
  | nil => exact Ensures.pure here
  | cons member rest ih =>
      rw [Shape.fromList]
      have restInside : ∀ other ∈ rest, other ∈ shape.members :=
        fun other mem => inside other (List.mem_cons_of_mem _ mem)
      apply Ensures.andThen
      intro goesOn
      split
      · have reads := preserves member (inside member List.mem_cons_self) record here
        exact Ensures.bind reads fun filled kept => ih kept restInside
      · split
        · exact ensures_failRecord _ _
        · exact ih here restInside

theorem fromMembers {fuel : Nat} {first : Bool} {filled : List String} {record : α}
    (preserves : shape.Preserves holds) (here : holds record) :
    Ensures (shape.fromMembers fuel first filled record) holds := by
  induction fuel generalizing first filled record with
  | zero => exact Ensures.failAhead _
  | succ fuel ih =>
      rw [Shape.fromMembers]
      apply Ensures.andThen
      intro goesOn
      split
      · apply Ensures.andThen
        intro _
        apply Ensures.andThen
        intro name
        split
        case h_1 member found =>
          split
          · exact ensures_failRecord _ _
          · apply Ensures.andThen
            intro _
            have reads := preserves member (List.mem_of_find?_eq_some found) record here
            exact Ensures.bind reads fun after kept => ih kept
        case h_2 =>
          apply Ensures.andThen
          intro _
          apply Ensures.andThen
          intro _
          exact ih here
      · split
        · exact ensures_failRecord _ _
        · exact Ensures.pure here

end Shape.Preserves

namespace Shape.Keeps

variable {shape : Shape α} {holds : α → Prop}

theorem read (keeps : shape.Keeps holds) : Ensures shape.read holds := by
  rw [Shape.read]
  apply Ensures.andThen
  intro byte
  split
  · apply Ensures.andThen
    intro _
    refine Ensures.bind (keeps.members.fromList keeps.empty fun _ mem => mem) fun record here => ?_
    exact Ensures.andThen fun _ => Ensures.pure here
  · split
    · apply Ensures.andThen
      intro _
      apply Ensures.andThen
      intro length
      refine Ensures.bind (keeps.members.fromMembers keeps.empty) fun record here => ?_
      exact Ensures.andThen fun _ => Ensures.pure here
    · exact Ensures.wrongType _ _

end Shape.Keeps

theorem exists_of_run_eq {read : Reader α} {cursor : Cursor} {value : α}
    (run_eq : StateT.run' read cursor = .ok value) :
    ∃ behind, read cursor = .ok (value, behind) := by
  rw [StateT.run'_eq, StateT.run] at run_eq
  cases read_eq : read cursor with
  | error error =>
      rw [read_eq] at run_eq
      cases run_eq
  | ok passed =>
      rw [read_eq] at run_eq
      cases run_eq
      exact ⟨passed.2, rfl⟩

/-- What a reader promises holds of whole bodies. -/
theorem Ensures.body {read : Reader α} {holds : α → Prop} (ensures : Ensures read holds)
    {bytes : List UInt8} {value : α} (body_eq : Read.body read bytes = .ok value) :
    holds value := by
  rcases exists_of_run_eq body_eq with ⟨behind, read_eq⟩
  refine Ensures.bind ensures (fun found here => ?_) _ _ _ read_eq
  apply Ensures.andThen
  intro token
  split
  · exact Ensures.pure here
  · exact Ensures.failAhead _

end LinkGuard.Json
