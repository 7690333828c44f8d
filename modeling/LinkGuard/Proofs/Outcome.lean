/-!
# Outcomes

What succeeds in parts succeeds in each of them, and what succeeds behind a change of errors has
succeeded before it.
-/

namespace LinkGuard

section Outcomes

variable {ε ε' α β : Type} {value : α} {result : β}

theorem bind_eq_ok_iff {first : Except ε α} {next : α → Except ε β} :
    (first >>= next) = .ok result ↔ ∃ value, first = .ok value ∧ next value = .ok result := by
  constructor
  · intro succeeded
    cases first with
    | error error => cases succeeded
    | ok value => exact ⟨value, rfl, succeeded⟩
  · rintro ⟨value, rfl, succeeded⟩
    exact succeeded

theorem exists_of_bind_eq_ok {first : Except ε α} {next : α → Except ε β}
    (succeeded : (first >>= next) = .ok result) :
    ∃ value, first = .ok value ∧ next value = .ok result :=
  bind_eq_ok_iff.mp succeeded

theorem map_eq_ok_iff {outcome : Except ε α} {next : α → β} :
    outcome.map next = .ok result ↔ ∃ value, outcome = .ok value ∧ next value = result := by
  cases outcome with
  | error error => simp [Except.map]
  | ok value => simp [Except.map]

@[simp]
theorem mapError_ok (wrap : ε → ε') (value : α) : (Except.ok value).mapError wrap = .ok value :=
  rfl

theorem mapError_eq_ok_iff {outcome : Except ε α} {wrap : ε → ε'} :
    outcome.mapError wrap = .ok value ↔ outcome = .ok value := by
  cases outcome with
  | error error =>
      constructor
      · intro wrapped
        cases wrapped
      · intro succeeded
        cases succeeded
  | ok value => simp only [mapError_ok, Except.ok.injEq]

theorem eq_ok_of_toOption {outcome : Except ε α} (some_eq : outcome.toOption = some value) :
    outcome = .ok value := by
  cases outcome with
  | error error => cases some_eq
  | ok other =>
      cases some_eq
      rfl

end Outcomes

end LinkGuard
