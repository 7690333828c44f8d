import LinkGuard.Asset.Embedded
import LinkGuard.Proofs.Outcome
import LinkGuard.Proofs.Text.Pieces

/-!
# Asset paths

A path may come from a visitor, so nothing may be opened by it that is not an asset. The rooted form
of a path has one slash in front and never leads upwards. It depends on what follows the slashes in
front of the path only, and is its own rooted form. A store opens the assets on its list by it and
nothing else.
-/

namespace LinkGuard.Asset

variable {path rooted name text : String}

/-- What follows the slashes in front of a path. -/
def unrooted (path : String) : List Char := path.toList.dropWhile (· = '/')

/-- Behind the slashes in front, a segment of the path leads upwards, or there is a backslash. -/
def Strays (path : String) : Prop :=
  Text.HasPiece '/' ['.', '.'] (unrooted path) ∨ '\\' ∈ unrooted path

theorem normalize_of_strays (strays : Strays path) :
    normalize path = .error (.invalidPath path) := by
  rw [Strays, ← Text.mem_splitChars_iff, unrooted] at strays
  exact if_pos strays

theorem normalize_of_not_strays (inside : ¬Strays path) :
    normalize path = .ok (String.ofList ('/' :: unrooted path)) := by
  rw [Strays, ← Text.mem_splitChars_iff, unrooted] at inside
  exact if_neg inside

theorem normalize_eq_error_iff :
    normalize path = .error (.invalidPath path) ↔ Strays path := by
  constructor
  · intro refused
    apply Classical.byContradiction
    intro inside
    rw [normalize_of_not_strays inside] at refused
    cases refused
  · exact normalize_of_strays

theorem normalize_eq_ok_iff :
    normalize path = .ok rooted ↔ ¬Strays path ∧ rooted = String.ofList ('/' :: unrooted path) := by
  by_cases strays : Strays path
  · simp [normalize_of_strays strays, strays]
  · simp [normalize_of_not_strays strays, strays, eq_comm]

theorem head?_unrooted (path : String) : (unrooted path).head? ≠ some '/' := by
  intro head
  have first := List.head?_dropWhile_not (· = '/') path.toList
  rw [unrooted] at head
  rw [head] at first
  cases first

/-- Slashes in front of a path make no difference to what follows them. -/
theorem unrooted_append_slashes (count : Nat) (path : String) :
    unrooted (String.ofList (List.replicate count '/') ++ path) = unrooted path := by
  rw [unrooted, String.toList_append, String.toList_ofList, List.dropWhile_append_of_pos, unrooted]
  intro character mem
  rw [List.eq_of_mem_replicate mem]
  rfl

/-- Putting a slash in front of what follows the slashes gives a path with the same behind it. -/
theorem unrooted_rooted (path : String) :
    unrooted (String.ofList ('/' :: unrooted path)) = unrooted path := by
  rw [unrooted, String.toList_ofList, List.dropWhile_cons_of_pos rfl]
  cases behind : unrooted path with
  | nil => rfl
  | cons first rest =>
      have other : first ≠ '/' := by
        rintro rfl
        exact head?_unrooted path (by rw [behind, List.head?_cons])
      exact List.dropWhile_cons_of_neg (by simpa using other)

theorem strays_congr {other : String} (same : unrooted path = unrooted other) :
    Strays path ↔ Strays other := by
  rw [Strays, Strays, same]

theorem normalize_append_slashes (inside : normalize path = .ok rooted) (count : Nat) :
    normalize (String.ofList (List.replicate count '/') ++ path) = .ok rooted := by
  rw [normalize_eq_ok_iff] at inside ⊢
  rw [strays_congr (unrooted_append_slashes count path), unrooted_append_slashes]
  exact inside

theorem normalize_rooted (inside : normalize path = .ok rooted) : normalize rooted = .ok rooted := by
  rcases normalize_eq_ok_iff.mp inside with ⟨stays, rfl⟩
  rw [normalize_eq_ok_iff, strays_congr (unrooted_rooted path), unrooted_rooted]
  exact ⟨stays, rfl⟩

/-- The path is in rooted form: it has one slash in front, does not lead upwards and has no other
rooted form. -/
structure IsRooted (rooted : String) : Prop where
  slash : ∃ behind, rooted.toList = '/' :: behind ∧ behind.head? ≠ some '/'
  level : ¬Text.HasPiece '/' ['.', '.'] rooted.toList
  plain : '\\' ∉ rooted.toList
  fixed : normalize rooted = .ok rooted

theorem isRooted_of_normalize (inside : normalize path = .ok rooted) : IsRooted rooted where
  slash := by
    rcases normalize_eq_ok_iff.mp inside with ⟨_, rfl⟩
    exact ⟨unrooted path, String.toList_ofList, head?_unrooted path⟩
  level := by
    rcases normalize_eq_ok_iff.mp inside with ⟨stays, rfl⟩
    rw [String.toList_ofList, Text.hasPiece_cons (by decide)]
    exact stays ∘ .inl
  plain := by
    rcases normalize_eq_ok_iff.mp inside with ⟨stays, rfl⟩
    rw [String.toList_ofList, List.mem_cons]
    rintro (backslash | mem)
    · cases backslash
    · exact stays (.inr mem)
  fixed := normalize_rooted inside

theorem find?_eq_of_mem {assets : List (String × String)} (distinct : (assets.map Prod.fst).Nodup)
    (listed : (name, text) ∈ assets) :
    assets.find? (fun asset => asset.1 == name) = some (name, text) := by
  induction assets with
  | nil => cases listed
  | cons first rest ih =>
      rw [List.map_cons, List.nodup_cons] at distinct
      rcases List.mem_cons.mp listed with rfl | later
      · exact List.find?_cons_of_pos (beq_self_eq_true name)
      · have other : first.1 ≠ name := by
          rintro rfl
          exact distinct.1 (List.mem_map.mpr ⟨_, later, rfl⟩)
        rw [List.find?_cons_of_neg (by simpa using other)]
        exact ih distinct.2 later

/-- A store of assets with different names opens a path just if its rooted form is one of the
names, and gives what is listed under that name. -/
theorem listed_eq_ok_iff {assets : List (String × String)} {bytes : List UInt8}
    (distinct : (assets.map Prod.fst).Nodup) :
    listed assets path = .ok bytes ↔
      ∃ rooted text, normalize path = .ok rooted ∧ (rooted, text) ∈ assets ∧
        bytes = Utf8.encode text := by
  constructor
  · intro opened
    rcases exists_of_bind_eq_ok opened with ⟨rooted, inside, found⟩
    split at found
    case h_1 name text first =>
      cases found
      have named : name = rooted := by simpa using List.find?_some first
      subst named
      exact ⟨name, text, inside, List.mem_of_find?_eq_some first, rfl⟩
    case h_2 => cases found
  · rintro ⟨rooted, text, inside, entry, rfl⟩
    simp only [listed, inside, bind, Except.bind, find?_eq_of_mem distinct entry]

/-- The embedded assets have different names. -/
theorem embedded_nodup : (embedded.map Prod.fst).Nodup := by
  decide

end LinkGuard.Asset
