import LinkGuard.Http.Message

/-!
# Finished responses

Finishing a response for a method keeps its status, adds the length of its body to its headers, and
leaves its body out only where the method has none.
-/

namespace LinkGuard.Http.Response

variable {method : String} {response : Response}

@[simp]
theorem status_finish : (response.finish method).status = response.status := by
  rw [finish, withLength]
  split
  · rfl
  · split
    · rfl
    · rfl

theorem body_finish :
    (response.finish method).body =
      if method = "HEAD" ∨ method = "CONNECT" ∧ 200 ≤ response.status ∧ response.status < 300
      then [] else response.body := by
  rw [finish, withLength]
  by_cases accepted : method = "CONNECT" ∧ 200 ≤ response.status ∧ response.status < 300
  · simp only [accepted, and_self, or_true, if_true]
  · by_cases head : method = "HEAD"
    · rw [if_neg accepted, if_pos head, if_pos (.inl head)]
    · simp only [accepted, head, if_false, or_self]

theorem body_finish_of_ne (notHead : method ≠ "HEAD") (notConnect : method ≠ "CONNECT") :
    (response.finish method).body = response.body := by
  rw [body_finish]
  apply if_neg
  rintro (head | ⟨connect, _⟩)
  · exact notHead head
  · exact notConnect connect

/-- Finishing a response adds the length of its body to the headers and nothing else. -/
theorem mem_headers_finish {name : String} {value : List UInt8} (named : name ≠ "content-length") :
    (name, value) ∈ (response.finish method).headers ↔ (name, value) ∈ response.headers := by
  have added : (name, value) ∈ response.withLength.headers ↔ (name, value) ∈ response.headers := by
    simp only [withLength, List.mem_append, List.mem_singleton, or_iff_left_iff_imp]
    intro length_eq
    exact absurd (congrArg Prod.fst length_eq) named
  rw [finish]
  split
  · rfl
  · split
    · exact added
    · exact added

end LinkGuard.Http.Response
