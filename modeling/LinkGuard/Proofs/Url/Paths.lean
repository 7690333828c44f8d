import LinkGuard.Proofs.Text.Ascii
import LinkGuard.Proofs.Text.Pieces
import LinkGuard.Url.Parser

/-!
# Plain paths

A path of letters, digits, hyphens, underscores and slashes is read as it stands: no character of it
is escaped, none ends it, and without points no segment of it is taken back.
-/

namespace LinkGuard.Url

variable {character : Char} {segment path : List Char} {segments : List (List Char)}

/-- An ASCII letter, a digit, a hyphen, an underscore or a slash. -/
def isPathChar (character : Char) : Bool :=
  character.isAlphanum || ['-', '_', '/'].contains character

/-- Empty, or beginning with a slash. -/
def IsRooted (path : List Char) : Prop :=
  path = [] ∨ ∃ rest, path = '/' :: rest

/-- A rooted path in plain characters. -/
structure IsPlainPath (path : List Char) : Prop where
  characters : ∀ character ∈ path, isPathChar character = true
  rooted : IsRooted path

/-- The path of a link that was written with a plain path. -/
def rootedPath (path : List Char) : String :=
  if path = [] then "/" else String.ofList path

/-- What stands in front of a rooted path ends at its slash or with the text. -/
theorem takeWhile_append_rooted {holds : Char → Bool} {front : List Char} (rooted : IsRooted path)
    (each : ∀ character ∈ front, holds character = true) (stops : holds '/' = false) :
    (front ++ path).takeWhile holds = front := by
  rw [List.takeWhile_append_of_pos each]
  rcases rooted with rfl | ⟨rest, rfl⟩
  · rw [List.takeWhile_nil, List.append_nil]
  · rw [List.takeWhile_cons_of_neg (by simp [stops]), List.append_nil]

theorem toNat_lt_of_isPathChar (plain : isPathChar character = true) : character.toNat < 128 := by
  simp only [isPathChar, Bool.or_eq_true, List.contains_eq_mem, decide_eq_true_eq, List.mem_cons,
    List.not_mem_nil, or_false] at plain
  rcases plain with alphanum | rfl | rfl | rfl
  · exact Text.toNat_lt_of_isAlphanum alphanum
  all_goals decide

/-- Such a character means nothing to the reader of a link, a slash apart. -/
theorem isPathChar_spec (plain : isPathChar character = true) :
    0x20 < character.toNat ∧ character ∉ ['?', '#', ':', '\\'] ∧
      character.toLower ∉ ['.', '%'] ∧ Component.path.lets character = true := by
  have ascii := toNat_lt_of_isPathChar plain
  revert plain
  exact Text.of_ascii ascii (by decide)

namespace Path

variable {rules : Rules}

theorem segments_eq (plain : ∀ character ∈ path, isPathChar character = true) :
    Path.segments rules path = path.splitOn '/' := by
  induction path with
  | nil => rfl
  | cons first path ih =>
      have notBack : first ≠ '\\' := by
        rintro rfl
        exact (isPathChar_spec (plain '\\' List.mem_cons_self)).2.1 (by decide)
      rw [Path.segments, List.splitOn_cons_eq_if_modifyHead,
        ih fun character mem => plain character (List.mem_cons_of_mem _ mem)]
      by_cases slash : first = '/'
      · simp only [slash, true_or, if_true, beq_self_eq_true]
      · rcases List.exists_cons_of_ne_nil (List.splitOn_ne_nil '/' path) with ⟨head, tail, split⟩
        simp only [slash, notBack, and_false, or_self, if_false, beq_iff_eq, split,
          List.modifyHead_cons]

theorem write_plain (plain : ∀ character ∈ segment, isPathChar character = true) :
    Component.path.write segment = segment := by
  have each : ∀ character ∈ segment, Component.path.writeChar character = [character] :=
    fun character mem => by
      rw [Component.writeChar, (isPathChar_spec (plain character mem)).2.2.2, if_pos rfl]
  rw [Component.write, List.flatMap_def, List.map_congr_left each, ← List.flatMap_def,
    List.flatMap_singleton']

/-- A segment that stands for a directory has a point or a percent sign. -/
theorem isHere_isAbove_of_plain (plain : ∀ character ∈ segment, isPathChar character = true) :
    isHere segment = false ∧ isAbove segment = false := by
  have absent (words : List (List Char))
      (pointed : ∀ word ∈ words, word.any ['.', '%'].contains = true) :
      words.contains (segment.map Char.toLower) = false := by
    rw [List.contains_eq_mem, decide_eq_false_iff_not]
    intro word_mem
    rcases List.any_eq_true.mp (pointed _ word_mem) with ⟨_, lowered_mem, point⟩
    rcases List.mem_map.mp lowered_mem with ⟨character, mem, rfl⟩
    exact (isPathChar_spec (plain character mem)).2.2.1 (List.contains_iff_mem.mp point)
  exact ⟨absent _ (by decide), absent _ (by decide)⟩

theorem addSegment_plain (web : rules.file = false)
    (plain : ∀ character ∈ segment, isPathChar character = true) (path : List Char)
    (slash : Bool) :
    addSegment rules path segment slash =
      ((if slash then '/' :: (segment.reverse ++ path) else segment.reverse ++ path), false) := by
  unfold addSegment
  simp only [write_plain plain, (isHere_isAbove_of_plain plain).1,
    (isHere_isAbove_of_plain plain).2, web, Bool.false_eq_true, if_false]
  rcases path with _ | ⟨first, _ | ⟨next, path⟩⟩ <;> rfl

/-- Plain segments are put behind the path with slashes between them. -/
theorem addSegments_plain (web : rules.file = false) (filled : segments ≠ [])
    (plain : ∀ segment ∈ segments, ∀ character ∈ segment, isPathChar character = true)
    (path : List Char) (drive : Bool) :
    (addSegments rules path drive segments).1 =
      (['/'].intercalate segments).reverse ++ path := by
  induction segments generalizing path drive with
  | nil => exact absurd rfl filled
  | cons segment segments ih =>
      have own := plain segment List.mem_cons_self
      have others := fun other mem => plain other (List.mem_cons_of_mem segment mem)
      cases segments with
      | nil =>
          rw [addSegments, addSegment_plain web own, List.intercalate_singleton]
          rfl
      | cons next segments =>
          rw [addSegments, addSegment_plain web own]
          · simp only [if_true]
            rw [ih (List.cons_ne_nil _ _) others, List.intercalate_cons_cons]
            simp
          · exact List.cons_ne_nil _ _

/-- A plain path is kept behind its beginning. -/
theorem read_plain (web : rules.file = false)
    (plain : ∀ character ∈ path, isPathChar character = true) (beginning : List Char) :
    (Path.read rules beginning path).1 = beginning ++ path := by
  have segment_plain : ∀ segment ∈ path.splitOn '/', ∀ character ∈ segment,
      isPathChar character = true := by
    intro segment segment_mem character mem
    exact plain character (Text.mem_of_mem_piece segment_mem mem)
  rw [Path.read, segments_eq plain]
  simp only [web, Bool.false_eq_true, if_false,
    addSegments_plain web (List.splitOn_ne_nil _ _) segment_plain, List.reverse_append,
    List.reverse_reverse, List.intercalate_splitOn]

end Path

variable {url : Url}

theorem splitTail_plain (plain : ∀ character ∈ path, isPathChar character = true) :
    splitTail path = (path, []) := by
  have kept : path.takeWhile (fun character => decide (character ≠ '?' ∧ character ≠ '#')) = path :=
    List.takeWhile_eq_self_iff.mpr fun character mem => by
      have spec := (isPathChar_spec (plain character mem)).2.1
      simp_all
  rw [splitTail, kept, List.drop_length]

/-- Behind an authority a plain path is all there is. -/
theorem readRootedPath_plain (isPlain : IsPlainPath path) (url : Url) :
    (readRootedPath .special path url).1 =
      { url with path := rootedPath path, query := none, fragment := none } := by
  have read_eq {path : List Char} (plain : ∀ character ∈ path, isPathChar character = true) :
      (readPath .special ['/'] path url).1 =
        { url with path := String.ofList ('/' :: path), query := none, fragment := none } := by
    rw [readPath, splitTail_plain plain]
    simp only [Path.read_plain (show SchemeKind.special.rules.file = false from rfl) plain, readTail]
    rfl
  rcases isPlain.rooted with rfl | ⟨rest, rfl⟩
  · exact read_eq isPlain.characters
  · rw [readRootedPath]
    exact read_eq fun character mem => isPlain.characters character (List.mem_cons_of_mem _ mem)

end LinkGuard.Url
