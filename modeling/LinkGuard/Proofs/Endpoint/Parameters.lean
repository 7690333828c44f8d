import LinkGuard.Proofs.Endpoint.Redirect
import LinkGuard.Proofs.Text.Pairs

/-!
# The parameters of a query

Links and format selectors may hold any characters, those that separate parameters among them. They
are written into a query in form encoding and read back as they were. Of several parameters with
one name the first counts, whether it is empty or not, so that an empty link is not made up for by a
later one. Parameters with other names change nothing, wherever they stand.

So the link that the engine is asked about and that a visitor is sent on to is the very one that was
written.
-/

namespace LinkGuard

namespace Form

variable {name value : String} {pairs others : List (String × String)}

/-- The first pair with the name has the value. -/
def IsFirst (name : String) (pairs : List (String × String)) (value : String) : Prop :=
  ∃ before after, pairs = before ++ (name, value) :: after ∧ ∀ pair ∈ before, pair.1 ≠ name

theorem firstValue?_eq_some_iff :
    firstValue? name pairs = some value ↔ IsFirst name pairs value := by
  rw [firstValue?, Option.map_eq_some_iff]
  constructor
  · rintro ⟨pair, found, rfl⟩
    rcases List.find?_eq_some_iff_append.mp found with ⟨named, before, after, split_eq, unnamed⟩
    have named : pair.1 = name := of_decide_eq_true named
    refine ⟨before, after, ?_, fun other mem => by simpa using unnamed other mem⟩
    rw [split_eq, ← named]
  · rintro ⟨before, after, split_eq, unnamed⟩
    refine ⟨(name, value), List.find?_eq_some_iff_append.mpr ⟨decide_eq_true rfl, before, after,
      split_eq, fun other mem => ?_⟩, rfl⟩
    simpa using unnamed other mem

theorem firstValue?_eq_none_iff :
    firstValue? name pairs = none ↔ ∀ pair ∈ pairs, pair.1 ≠ name := by
  simp only [firstValue?, Option.map_eq_none_iff, List.find?_eq_none, decide_eq_true_eq, ne_eq]

/-- Pairs with other names may be left out. -/
theorem firstValue?_filter (name : String) (pairs : List (String × String)) :
    firstValue? name (pairs.filter fun pair => pair.1 = name) = firstValue? name pairs := by
  rw [firstValue?, firstValue?, List.find?_filter]
  simp only [decide_eq_true_eq, and_self]

theorem firstValue?_congr
    (same : (others.filter fun pair => pair.1 = name) = pairs.filter fun pair => pair.1 = name) :
    firstValue? name others = firstValue? name pairs := by
  rw [← firstValue?_filter name others, same, firstValue?_filter]

end Form

namespace Query

open Form (IsFirst)

/-- A query that was written from pairs is read as these pairs. -/
structure ReadsBack (pairs : List (String × String)) : Prop where
  /-- The link is the first one, if this is not empty, -/
  link : ∀ link, link? (some (Form.write pairs)) = some link ↔
    IsFirst "url" pairs link ∧ link ≠ ""
  /-- and otherwise there is none. -/
  noLink : link? (some (Form.write pairs)) = none ↔
    (∀ pair ∈ pairs, pair.1 ≠ "url") ∨ IsFirst "url" pairs ""
  /-- The format selector is the first one, even if this is empty. -/
  selector : ∀ selector, selector? (some (Form.write pairs)) = some selector ↔
    IsFirst "alt" pairs selector
  noSelector : selector? (some (Form.write pairs)) = none ↔ ∀ pair ∈ pairs, pair.1 ≠ "alt"
  /-- Pairs with other names change neither. -/
  sameLink : ∀ others : List (String × String),
    (others.filter fun pair => pair.1 = "url") = (pairs.filter fun pair => pair.1 = "url") →
      link? (some (Form.write others)) = link? (some (Form.write pairs))
  sameSelector : ∀ others : List (String × String),
    (others.filter fun pair => pair.1 = "alt") = (pairs.filter fun pair => pair.1 = "alt") →
      selector? (some (Form.write others)) = selector? (some (Form.write pairs))

variable {pairs : List (String × String)} {link : String}

theorem link?_write (pairs : List (String × String)) :
    link? (some (Form.write pairs)) = (Form.firstValue? "url" pairs).filter (· ≠ "") := by
  rw [link?, Option.getD_some, Form.parse_write]

theorem selector?_write (pairs : List (String × String)) :
    selector? (some (Form.write pairs)) = Form.firstValue? "alt" pairs := by
  rw [selector?, Option.getD_some, Form.parse_write]

theorem link?_write_eq_some_iff :
    link? (some (Form.write pairs)) = some link ↔ IsFirst "url" pairs link ∧ link ≠ "" := by
  rw [link?_write, Option.filter_eq_some_iff, Form.firstValue?_eq_some_iff, decide_eq_true_eq]

theorem link?_write_eq_none_iff :
    link? (some (Form.write pairs)) = none ↔
      (∀ pair ∈ pairs, pair.1 ≠ "url") ∨ IsFirst "url" pairs "" := by
  rw [link?_write, ← Form.firstValue?_eq_none_iff, ← Form.firstValue?_eq_some_iff]
  cases Form.firstValue? "url" pairs with
  | none => simp
  | some value => simp

/-- Whatever the pairs of a query are, its link and its format selector are the first ones that were
written. -/
theorem reads_back_written (pairs : List (String × String)) : ReadsBack pairs where
  link _ := link?_write_eq_some_iff
  noLink := link?_write_eq_none_iff
  selector _ := by rw [selector?_write, Form.firstValue?_eq_some_iff]
  noSelector := by rw [selector?_write, Form.firstValue?_eq_none_iff]
  sameLink _ same := by rw [link?_write, link?_write, Form.firstValue?_congr same]
  sameSelector _ same := by rw [selector?_write, selector?_write, Form.firstValue?_congr same]

example : link? (some "url=&url=http%3A%2F%2Fb.example%2F") = none := by cbv

end Query

/-- The engine is asked about the link that was written, and the same link is followed up. -/
theorem Endpoint.serveRedirect_write {pairs : List (String × String)} {link : String} {target : Url}
    (store : AssetStore) (first : Form.IsFirst "url" pairs link) (filled : link ≠ "")
    (parsed : Url.parseTarget link = .ok target) :
    serveRedirect store (some (Form.write pairs)) =
      .lookup [link] fun answer => .done (followUp store link target answer) :=
  serveRedirect_lookup (Query.link?_write_eq_some_iff.mpr ⟨first, filled⟩) parsed

end LinkGuard
