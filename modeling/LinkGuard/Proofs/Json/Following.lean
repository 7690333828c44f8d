import LinkGuard.Proofs.Json.Ensures
import Mathlib.Data.List.Forall2

/-!
# Readers that follow each other

Two readers of the same bytes differ in what they make of single values, and one of them may refuse
what the other takes. The stricter one *follows* the other if it stands at the same place with a
value that agrees, or fails over a value that it has to refuse. Once something was refused the value
of the other reader must not get any better, so the steps behind it have to keep what is wrong.

Following is kept by the ways of combining readers. Two records follow each other if their members
do, one by one.
-/

namespace LinkGuard.Json

variable {α β γ δ : Type}

section Steps

variable {read : Reader α} {next : α → Reader β} {cursor behind : Cursor} {value : α} {result : β}

theorem Reader.bind_eq (read_eq : read cursor = .ok (value, behind)) :
    (read >>= next) cursor = next value behind := by
  simp only [Bind.bind, StateT.bind, read_eq, Except.bind]

theorem Reader.exists_of_bind_eq (bind_eq : (read >>= next) cursor = .ok (result, behind)) :
    ∃ value middle, read cursor = .ok (value, middle) ∧ next value middle = .ok (result, behind) := by
  simp only [Bind.bind, StateT.bind] at bind_eq
  cases read_eq : read cursor with
  | error error =>
      rw [read_eq] at bind_eq
      cases bind_eq
  | ok passed =>
      rw [read_eq] at bind_eq
      exact ⟨passed.1, passed.2, rfl, bind_eq⟩

end Steps

/-- Where the first reader gives a value, the second gives one that agrees with it and passes the
same bytes, or it fails and the value is one to refuse. -/
def Follows (first : Reader α) (second : Reader β) (agrees : α → β → Prop) (refused : α → Prop) :
    Prop :=
  ∀ cursor value behind, first cursor = .ok (value, behind) →
    (∃ other, agrees value other ∧ second cursor = .ok (other, behind)) ∨
      refused value ∧ ∃ error, second cursor = .error error

namespace Follows

variable {first : Reader α} {second : Reader β} {agrees : α → β → Prop} {refused : α → Prop}

theorem pure {value : α} {other : β} (same : agrees value other) :
    Follows (Pure.pure value) (Pure.pure other) agrees refused := by
  intro cursor value' behind read_eq
  cases read_eq
  exact .inl ⟨other, same, rfl⟩

/-- A reader that never gives a value is followed by any other. -/
theorem of_never (never : Ensures first fun _ => False) : Follows first second agrees refused := by
  intro cursor value behind read_eq
  exact absurd (never cursor value behind read_eq) not_false

theorem bind {next : α → Reader γ} {following : β → Reader δ} {agreesThen : γ → δ → Prop}
    {refusedThen : γ → Prop} (follows : Follows first second agrees refused)
    (continues : ∀ value other, agrees value other →
      Follows (next value) (following other) agreesThen refusedThen)
    (stays : ∀ value, refused value → Ensures (next value) refusedThen) :
    Follows (first >>= next) (second >>= following) agreesThen refusedThen := by
  intro cursor result behind read_eq
  rcases Reader.exists_of_bind_eq read_eq with ⟨value, middle, first_eq, next_eq⟩
  rcases follows cursor value middle first_eq with ⟨other, same, second_eq⟩ | ⟨bad, error, failed⟩
  · rw [Reader.bind_eq second_eq]
    exact continues value other same middle result behind next_eq
  · refine .inr ⟨stays value bad middle result behind next_eq, error, ?_⟩
    simp only [Bind.bind, StateT.bind, failed, Except.bind]

/-- After a common step the second reader follows if it does so for each value. -/
theorem andThen {read : Reader γ} {next : γ → Reader α} {following : γ → Reader β}
    (continues : ∀ value, Follows (next value) (following value) agrees refused) :
    Follows (read >>= next) (read >>= following) agrees refused := by
  intro cursor result behind read_eq
  rcases Reader.exists_of_bind_eq read_eq with ⟨value, middle, value_eq, next_eq⟩
  rw [Reader.bind_eq value_eq]
  exact continues value middle result behind next_eq

theorem ite {condition : Prop} [Decidable condition] {first' : Reader α} {second' : Reader β}
    (isTrue : condition → Follows first second agrees refused)
    (isFalse : ¬condition → Follows first' second' agrees refused) :
    Follows (if condition then first else first') (if condition then second else second')
      agrees refused := by
  split
  case isTrue holds => exact isTrue holds
  case isFalse fails => exact isFalse fails

end Follows

section Variants

variable {cursor behind : Cursor}

theorem skipBlanks_go (bytes : List UInt8) (line column : Nat) :
    (Cursor.skipBlanks.go bytes line column).skipBlanks =
      Cursor.skipBlanks.go bytes line column := by
  induction bytes generalizing line column with
  | nil => rfl
  | cons byte rest ih =>
      simp only [Cursor.skipBlanks.go]
      split
      · exact ih _ _
      · split
        · exact ih _ _
        · simp_all [Cursor.skipBlanks, Cursor.skipBlanks.go]

/-- The first byte of a value may be looked at again. -/
theorem valueToken_again {byte : UInt8}
    (token_eq : Read.valueToken cursor = .ok (byte, behind)) :
    Read.valueToken behind = .ok (byte, behind) := by
  rcases Reader.exists_of_bind_eq token_eq with ⟨token, middle, peek_eq, found⟩
  cases peek_eq
  have again : Reader.peekToken cursor.skipBlanks =
      .ok (cursor.skipBlanks.rest.head?, cursor.skipBlanks) := by
    have same : cursor.skipBlanks.skipBlanks = cursor.skipBlanks := skipBlanks_go _ _ _
    simp only [Reader.peekToken, same]
  cases head : cursor.skipBlanks.rest.head? with
  | none =>
      rw [head] at found
      cases found
  | some token =>
      rw [head] at found
      cases found
      rw [Read.valueToken, Reader.bind_eq again, head]
      rfl

/-- A named value follows the text of its name, and is refused if there is no such name. -/
theorem follows_variant (known : List String) (ofName? : String → Option α) :
    Follows Read.text (Read.variant known ofName?) (fun name value => ofName? name = some value)
      fun name => ofName? name = none := by
  intro cursor name behind read_eq
  rcases Reader.exists_of_bind_eq read_eq with ⟨byte, middle, token_eq, text_eq⟩
  -- The text is a literal, so the record form of a named value plays no part.
  have quote : byte = 0x22 := by
    have never : Ensures (Read.wrongType byte "a string") fun _ : String => False :=
      Ensures.wrongType byte _
    by_contra other
    rw [if_neg other] at text_eq
    exact never middle name behind text_eq
  rw [if_pos quote] at text_eq
  -- The named value looks at the quote again before it reads the same literal.
  have called_eq (expected : String) : Read.textCalled expected middle = .ok (name, behind) := by
    rw [Read.textCalled, Reader.bind_eq (valueToken_again token_eq), if_pos quote]
    exact text_eq
  rw [Read.variant, Reader.bind_eq token_eq, if_pos quote, Read.parsed,
    Reader.bind_eq (called_eq _)]
  cases named : ofName? name with
  | none => exact .inr ⟨named, _, rfl⟩
  | some value => exact .inl ⟨value, named, rfl⟩

end Variants

section Lists

variable {first : Reader α} {second : Reader β} {agrees : α → β → Prop} {refused : α → Prop}
  {fuel : Nat} {taken : List α} {others : List β}

/-- What is wrong with a list stays wrong as more of it is read. -/
theorem ensures_items (bad : ∃ value ∈ taken, refused value) :
    Ensures (Read.items first fuel taken) fun values => ∃ value ∈ values, refused value := by
  induction fuel generalizing taken with
  | zero => exact Ensures.failAhead _
  | succ fuel ih =>
      rw [Read.items]
      apply Ensures.andThen
      intro goesOn
      split
      · apply Ensures.andThen
        intro item
        rcases bad with ⟨value, mem, bad⟩
        exact ih ⟨value, List.mem_cons_of_mem _ mem, bad⟩
      · apply Ensures.pure
        simpa using bad

namespace Follows

theorem items (follows : Follows first second agrees refused)
    (same : List.Forall₂ agrees taken others) :
    Follows (Read.items first fuel taken) (Read.items second fuel others) (List.Forall₂ agrees)
      fun values => ∃ value ∈ values, refused value := by
  induction fuel generalizing taken others with
  | zero => exact of_never (Ensures.failAhead _)
  | succ fuel ih =>
      have empty_eq : others.isEmpty = taken.isEmpty := by
        cases same <;> rfl
      simp only [Read.items, empty_eq]
      apply andThen
      intro goesOn
      apply ite
      · intro _
        apply bind follows
        · intro value other agree
          exact ih (.cons agree same)
        · intro value bad
          exact ensures_items ⟨value, List.mem_cons_self, bad⟩
      · intro _
        apply pure
        simpa using same

theorem list (follows : Follows first second agrees refused) :
    Follows (Read.list first) (Read.list second) (List.Forall₂ agrees)
      fun values => ∃ value ∈ values, refused value := by
  rw [Read.list, Read.list]
  apply andThen
  intro byte
  apply ite
  · intro _
    apply andThen
    intro _
    apply andThen
    intro length
    apply bind (follows.items .nil)
    · intro values others agree
      apply andThen
      intro _
      exact pure agree
    · intro values bad
      apply Ensures.andThen
      intro _
      exact Ensures.pure bad
  · intro _
    exact of_never (Ensures.wrongType _ _)

end Follows

end Lists

/-- The second member follows the first on records that agree. -/
structure Member.Follows (agrees : α → β → Prop) (refused : α → Prop) (first : Member α)
    (second : Member β) : Prop where
  name : second.name = first.name
  required : second.required = first.required
  read : ∀ record other, agrees record other →
    Json.Follows (first.read record) (second.read other) agrees refused

/-- The members of the second shape follow those of the first one by one, and a record to refuse
remains one when members are read into it. -/
structure Shape.Follows (agrees : α → β → Prop) (refused : α → Prop) (first : Shape α)
    (second : Shape β) : Prop where
  members : List.Forall₂ (Member.Follows agrees refused) first.members second.members
  empty : agrees first.empty second.empty
  stays : first.Preserves refused

/-- In two lists that are related one by one, the first values with a property are related if the
property does not tell related values apart. -/
theorem find?_of_forall₂ {related : α → β → Prop} {values : List α} {others : List β}
    (holds : α → Bool) (holds' : β → Bool) (relates : List.Forall₂ related values others)
    (same : ∀ value other, related value other → holds' other = holds value) :
    (values.find? holds = none ∧ others.find? holds' = none) ∨
      ∃ value other, related value other ∧ values.find? holds = some value ∧
        others.find? holds' = some other := by
  induction relates with
  | nil => exact .inl ⟨rfl, rfl⟩
  | @cons value other values others here _ ih =>
      have same_here := same value other here
      simp only [List.find?_cons, same_here]
      cases holds value with
      | true => exact .inr ⟨value, other, here, rfl, rfl⟩
      | false => exact ih

namespace Shape.Follows

variable {agrees : α → β → Prop} {refused : α → Prop} {first : Shape α} {second : Shape β}
  {record : α} {other : β}

theorem fromList {index : Nat} {isFirst : Bool} {members : List (Member α)}
    {others : List (Member β)} (follows : first.Follows agrees refused second)
    (relates : List.Forall₂ (Member.Follows agrees refused) members others)
    (inside : ∀ member ∈ members, member ∈ first.members) (same : agrees record other) :
    Json.Follows (first.fromList index isFirst record members)
      (second.fromList index isFirst other others) agrees refused := by
  induction relates generalizing index isFirst record other with
  | nil => exact Follows.pure same
  | @cons member member' rest rest' here _ ih =>
      have restInside : ∀ other ∈ rest, other ∈ first.members :=
        fun other mem => inside other (List.mem_cons_of_mem _ mem)
      simp only [Shape.fromList, here.required]
      apply Follows.andThen
      intro goesOn
      apply Follows.ite
      · intro _
        apply Follows.bind (here.read record other same)
        · intro filled filled' agree
          exact ih restInside agree
        · intro filled bad
          exact follows.stays.fromList bad restInside
      · intro _
        apply Follows.ite
        · intro _
          exact Follows.of_never (ensures_failRecord _ _)
        · intro _
          exact ih restInside same

theorem missing? (follows : first.Follows agrees refused second) (filled : List String) :
    (first.missing? filled = none ∧ second.missing? filled = none) ∨
      ∃ member member', first.missing? filled = some member ∧
        second.missing? filled = some member' := by
  have found := find?_of_forall₂
    (fun member => member.required && !filled.contains member.name)
    (fun member => member.required && !filled.contains member.name) follows.members
    fun member member' here => by simp only [here.required, here.name]
  rcases found with none | ⟨member, member', _, some⟩
  · exact .inl none
  · exact .inr ⟨member, member', some⟩

theorem fromMembers {fuel : Nat} {isFirst : Bool} {filled : List String}
    (follows : first.Follows agrees refused second) (same : agrees record other) :
    Json.Follows (first.fromMembers fuel isFirst filled record)
      (second.fromMembers fuel isFirst filled other) agrees refused := by
  induction fuel generalizing isFirst filled record other with
  | zero => exact Follows.of_never (Ensures.failAhead _)
  | succ fuel ih =>
      simp only [Shape.fromMembers]
      apply Follows.andThen
      intro goesOn
      apply Follows.ite
      · intro _
        apply Follows.andThen
        intro _
        apply Follows.andThen
        intro name
        have found := find?_of_forall₂ (fun member => member.name == name)
          (fun member => member.name == name) follows.members
          fun member member' here => by simp only [here.name]
        rcases found with ⟨none, none'⟩ | ⟨member, member', here, some, some'⟩
        · simp only [none, none']
          apply Follows.andThen
          intro _
          apply Follows.andThen
          intro _
          exact ih same
        · simp only [some, some']
          apply Follows.ite
          · intro _
            exact Follows.of_never (ensures_failRecord _ _)
          · intro _
            apply Follows.andThen
            intro _
            apply Follows.bind (here.read record other same)
            · intro filled filled' agree
              exact ih agree
            · intro filled bad
              exact follows.stays.fromMembers bad
      · intro _
        rcases follows.missing? filled with ⟨none, none'⟩ | ⟨member, member', some, some'⟩
        · simp only [none, none']
          exact Follows.pure same
        · simp only [some, some']
          exact Follows.of_never (ensures_failRecord _ _)

theorem read (follows : first.Follows agrees refused second) :
    Json.Follows first.read second.read agrees refused := by
  have ending {record : α} {other : β} (close : Reader Unit) (same : agrees record other) :
      Json.Follows (do close; pure record) (do close; pure other) agrees refused := by
    apply Follows.andThen
    intro _
    exact Follows.pure same
  have staying {record : α} (close : Reader Unit) (bad : refused record) :
      Ensures (do close; pure record) refused := by
    apply Ensures.andThen
    intro _
    exact Ensures.pure bad
  simp only [Shape.read]
  apply Follows.andThen
  intro byte
  apply Follows.ite
  · intro _
    apply Follows.andThen
    intro _
    apply Follows.bind (follows.fromList follows.members (fun _ mem => mem) follows.empty)
    · intro record other same
      exact ending _ same
    · intro record bad
      exact staying _ bad
  · intro _
    apply Follows.ite
    · intro _
      apply Follows.andThen
      intro _
      apply Follows.andThen
      intro length
      apply Follows.bind (follows.fromMembers follows.empty)
      · intro record other same
        exact ending _ same
      · intro record bad
        exact staying _ bad
    · intro _
      exact Follows.of_never (Ensures.wrongType _ _)

end Shape.Follows

namespace Follows

variable {first : Reader α} {second : Reader β} {agrees : α → β → Prop} {refused : α → Prop}
  {value : α}

theorem run (follows : Follows first second agrees refused) {cursor : Cursor}
    (run_eq : StateT.run' first cursor = .ok value) :
    (∃ other, agrees value other ∧ StateT.run' second cursor = .ok other) ∨
      refused value ∧ ∃ error, StateT.run' second cursor = .error error := by
  rcases exists_of_run_eq run_eq with ⟨behind, read_eq⟩
  rcases follows cursor value behind read_eq with ⟨other, same, other_eq⟩ | ⟨bad, error, other_eq⟩
  · exact .inl ⟨other, same, congrArg (Except.map Prod.fst) other_eq⟩
  · exact .inr ⟨bad, error, congrArg (Except.map Prod.fst) other_eq⟩

/-- On a body that the first reader takes the second gives a value that agrees, or it fails and the
value is one to refuse. -/
theorem body (follows : Follows first second agrees refused) {bytes : List UInt8}
    (body_eq : Read.body first bytes = .ok value) :
    (∃ other, agrees value other ∧ Read.body second bytes = .ok other) ∨
      refused value ∧ ∃ error, Read.body second bytes = .error error := by
  unfold Read.body at body_eq ⊢
  apply run _ body_eq
  apply bind follows
  · intro value other same
    apply andThen
    intro token
    cases token with
    | none => exact Follows.pure same
    | some _ => exact of_never (Ensures.failAhead _)
  · intro value bad
    apply Ensures.andThen
    intro token
    cases token with
    | none => exact Ensures.pure bad
    | some _ => exact Ensures.failAhead _

end Follows

end LinkGuard.Json
