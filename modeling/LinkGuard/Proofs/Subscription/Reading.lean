import LinkGuard.Proofs.Lookup.Distinct
import LinkGuard.Proofs.Text.Pieces
import LinkGuard.Subscription

/-!
# Which texts are subscriptions

A written subscription is a list of names of concrete threats, or stands for all of them. The loop
over its parts remembers what it has taken, so it takes every threat at its first name, and it stops
at the first part that names none. Neither letter case nor blanks, empty parts and repeats change
what a list means.
-/

namespace LinkGuard

namespace Threat

variable {name : String} {threat : Threat}

/-- No two categories have the same name, not even in different letter case. -/
theorem eq_of_lower_apiName {left right : Threat}
    (same : left.apiName.toList.map Char.toLower = right.apiName.toList.map Char.toLower) :
    left = right := by
  have apart : ∀ left ∈ all, ∀ right ∈ all,
      left.apiName.toList.map Char.toLower = right.apiName.toList.map Char.toLower →
        left = right := by
    decide
  have mem_all (threat : Threat) : threat ∈ all := by cases threat <;> decide
  exact apart left (mem_all left) right (mem_all right) same

theorem ofName?_eq_some_iff :
    ofName? name = some threat ↔ Text.sameLetters threat.apiName name = true := by
  have sound {other : Threat} (found : ofName? name = some other) :
      Text.sameLetters other.apiName name = true :=
    List.find?_some (p := fun threat : Threat => Text.sameLetters threat.apiName name) found
  constructor
  · exact sound
  · intro same
    have found : (ofName? name).isSome = true := by
      rw [ofName?, List.find?_isSome]
      exact ⟨threat, by cases threat <;> decide, same⟩
    rcases Option.isSome_iff_exists.mp found with ⟨other, other_eq⟩
    rw [other_eq, eq_of_lower_apiName ((Text.sameLetters_iff.mp (sound other_eq)).trans
      (Text.sameLetters_iff.mp same).symm)]

end Threat

namespace Subscription

/-- The part is the name of the threat, in whatever letter case, and the threat is concrete. -/
def Names (part : String) (threat : Threat) : Prop :=
  threat ≠ .unspecified ∧ Text.sameLetters threat.apiName part = true

/-- The pieces that are more than blanks, each without the blanks around it. -/
def namesIn (pieces : List (List Char)) : List String :=
  ((pieces.map Text.trimBlanks).filter (· ≠ [])).map String.ofList

/-- The names between commas. -/
def listed (text : String) : List String :=
  namesIn (text.toList.splitOn ',')

/-- The text stands for all concrete threats. -/
def MeansAll (text : String) : Prop :=
  Text.trim text = "" ∨ Text.sameLetters (Text.trim text) "ALL" = true

section Parts

variable {part : String} {threat : Threat} {taken named : List Threat} {parts : List String}

theorem parsePart_of_names (names : Names part threat) : parsePart part = .ok threat := by
  rw [parsePart, Threat.ofName?_eq_some_iff.mpr names.2]
  cases threat with
  | unspecified => exact absurd rfl names.1
  | _ => rfl

theorem parsePart_of_not_names (unnamed : ∀ threat, ¬Names part threat) :
    parsePart part = .error ⟨part⟩ := by
  rw [parsePart]
  split
  case h_1 => rfl
  case h_2 => rfl
  case h_3 other notUnspecified found =>
    have concrete : other ≠ .unspecified := by
      rintro rfl
      exact notUnspecified rfl
    exact absurd ⟨concrete, Threat.ofName?_eq_some_iff.mp found⟩ (unnamed other)

/-- Names are taken in order, each threat at its first name. -/
theorem collect_of_names (names : List.Forall₂ Names parts named) :
    collect taken parts = .ok (named.foldl see taken) := by
  induction names generalizing taken with
  | nil => rfl
  | cons first _ ih =>
      rw [collect, parsePart_of_names first, List.foldl_cons, see]
      exact ih

/-- The first part that names no threat is the error. -/
theorem collect_of_not_names {before after : List String}
    (names : List.Forall₂ Names before named) (unnamed : ∀ threat, ¬Names part threat) :
    collect taken (before ++ part :: after) = .error ⟨part⟩ := by
  induction names generalizing taken with
  | nil => rw [List.nil_append, collect, parsePart_of_not_names unnamed]
  | cons first _ ih =>
      rw [List.cons_append, collect, parsePart_of_names first]
      exact ih

theorem forall_exists_names (names : List.Forall₂ Names parts named) :
    ∀ part ∈ parts, ∃ threat, Names part threat := by
  induction names with
  | nil => simp
  | cons first _ ih =>
      intro part mem
      rcases List.mem_cons.mp mem with rfl | mem
      · exact ⟨_, first⟩
      · exact ih part mem

theorem unspecified_not_mem (names : List.Forall₂ Names parts named) :
    Threat.unspecified ∉ named := by
  induction names with
  | nil => exact List.not_mem_nil
  | cons first _ ih => exact List.not_mem_cons_of_ne_of_not_mem first.1.symm ih

theorem names_or_first_not_names (parts : List String) :
    (∃ named, List.Forall₂ Names parts named) ∨
      ∃ before part after named, parts = before ++ part :: after ∧
        List.Forall₂ Names before named ∧ ∀ threat, ¬Names part threat := by
  induction parts with
  | nil => exact .inl ⟨[], .nil⟩
  | cons first rest ih =>
      by_cases known : ∃ threat, Names first threat
      · rcases known with ⟨threat, names⟩
        rcases ih with ⟨named, others⟩ | ⟨before, part, after, named, rfl, others, unnamed⟩
        · exact .inl ⟨threat :: named, .cons names others⟩
        · exact .inr ⟨first :: before, part, after, threat :: named, rfl, .cons names others,
            unnamed⟩
      · exact .inr ⟨[], first, rest, [], rfl, .nil, not_exists.mp known⟩

end Parts

section Texts

variable {text : String} {named threats : List Threat}

theorem parts_eq_listed (text : String) : parts text = listed text := by
  have each : (fun part => decide (part ≠ "")) ∘ Text.trim ∘ String.ofList =
      (fun piece => decide (piece ≠ [])) ∘ Text.trimBlanks := by
    funext piece
    simp [Text.trim]
  have trim_ofList : Text.trim ∘ String.ofList = String.ofList ∘ Text.trimBlanks := by
    funext piece
    simp [Text.trim]
  rw [parts, Text.split, Text.splitChars_eq_splitOn, listed, namesIn, List.map_map,
    List.filter_map, each, List.filter_map, List.map_map, trim_ofList]

theorem listed_trim (text : String) : listed (Text.trim text) = listed text := by
  rw [listed, namesIn, ← Text.trimmedPieces, Text.trim, String.toList_ofList,
    Text.trimmedPieces_trimBlanks (by decide), listed, namesIn, Text.trimmedPieces]

theorem parse_of_meansAll (all : MeansAll text) : parse text = .ok Threat.concrete :=
  if_pos all

theorem parse_of_not_meansAll (some : ¬MeansAll text) :
    parse text = collect [] (listed text) := by
  rw [← listed_trim, ← parts_eq_listed]
  exact if_neg some

theorem parse_of_names (some : ¬MeansAll text) (names : List.Forall₂ Names (listed text) named) :
    parse text = .ok (distinct named) := by
  have once : named.foldl see [] = distinct named := foldl_see [] named
  rw [parse_of_not_meansAll some, collect_of_names names, once]

/-- Reading ends in one of three ways. -/
theorem parse_cases (text : String) :
    (MeansAll text ∧ parse text = .ok Threat.concrete) ∨
    (¬MeansAll text ∧ ∃ named, List.Forall₂ Names (listed text) named ∧
      parse text = .ok (distinct named)) ∨
    (¬MeansAll text ∧ ∃ before part after, listed text = before ++ part :: after ∧
      (∀ part ∈ before, ∃ threat, Names part threat) ∧ (∀ threat, ¬Names part threat) ∧
      parse text = .error ⟨part⟩) := by
  by_cases all : MeansAll text
  · exact .inl ⟨all, parse_of_meansAll all⟩
  rcases names_or_first_not_names (listed text) with
    ⟨named, names⟩ | ⟨before, part, after, named, listed_eq, names, unnamed⟩
  · exact .inr (.inl ⟨all, named, names, parse_of_names all names⟩)
  · refine .inr (.inr ⟨all, before, part, after, listed_eq, forall_exists_names names, unnamed, ?_⟩)
    rw [parse_of_not_meansAll all, listed_eq, collect_of_not_names names unnamed]

/-- A list of names is read as the threats it names, each once and in the order of first appearance.
It is refused if a part names no concrete threat, and only then; the first such part is the
error. -/
structure ReadsNames (text : String) : Prop where
  all : MeansAll text → parse text = .ok Threat.concrete
  accepts : ¬MeansAll text → ((∃ threats, parse text = .ok threats) ↔
    ∀ part ∈ listed text, ∃ threat, Names part threat)
  names : ¬MeansAll text → ∀ named, List.Forall₂ Names (listed text) named →
    ∃ threats, parse text = .ok threats ∧ FirstAppearances threats named
  refuses : ∀ error, parse text = .error error →
    ∃ before after, listed text = before ++ error.name :: after ∧
      (∀ part ∈ before, ∃ threat, Names part threat) ∧ ∀ threat, ¬Names error.name threat
  concrete : ∀ threats, parse text = .ok threats →
    threats.Nodup ∧ .unspecified ∉ threats

theorem parse_eq_ok_iff (some : ¬MeansAll text) :
    (∃ threats, parse text = .ok threats) ↔ ∀ part ∈ listed text, ∃ threat, Names part threat := by
  rcases parse_cases text with ⟨all, _⟩ | ⟨_, named, names, parsed⟩ |
    ⟨_, before, part, after, listed_eq, _, unnamed, parsed⟩
  · exact absurd all some
  · exact ⟨fun _ => forall_exists_names names, fun _ => ⟨_, parsed⟩⟩
  · rw [parsed, listed_eq]
    constructor
    · rintro ⟨threats, read⟩
      cases read
    · intro known
      rcases known part (by simp) with ⟨threat, names⟩
      exact absurd names (unnamed threat)

theorem first_of_refused {error : UnknownThreat} (refused : parse text = .error error) :
    ∃ before after, listed text = before ++ error.name :: after ∧
      (∀ part ∈ before, ∃ threat, Names part threat) ∧ ∀ threat, ¬Names error.name threat := by
  rcases parse_cases text with ⟨_, parsed⟩ | ⟨_, named, _, parsed⟩ |
    ⟨_, before, part, after, listed_eq, known, unnamed, parsed⟩
  all_goals
    rw [parsed] at refused
    cases refused
  exact ⟨before, after, listed_eq, known, unnamed⟩

theorem concrete_of_parse (read : parse text = .ok threats) :
    threats.Nodup ∧ .unspecified ∉ threats := by
  rcases parse_cases text with ⟨_, parsed⟩ | ⟨_, named, names, parsed⟩ |
    ⟨_, before, part, after, _, _, _, parsed⟩
  all_goals
    rw [parsed] at read
    cases read
  · exact ⟨by decide, by decide⟩
  · have first := firstAppearances_distinct named
    exact ⟨first.once, fun mem => unspecified_not_mem names ((first.mem_iff _).mp mem)⟩

theorem readsNames (text : String) : ReadsNames text where
  all := parse_of_meansAll
  accepts := parse_eq_ok_iff
  names some named names := ⟨_, parse_of_names some names, firstAppearances_distinct named⟩
  refuses _ := first_of_refused
  concrete _ := concrete_of_parse

end Texts

/-- The characters spell the name of the threat in any letter case, with blanks around it. -/
def Spells (piece : List Char) (threat : Threat) : Prop :=
  ∃ name : String, Text.sameLetters threat.apiName name = true ∧ Text.IsPadded piece name.toList

/-- The pieces spell the threats in order. Among them may be blank pieces, and pieces that spell a
threat once more that was spelled before. -/
inductive Decorates : List Threat → List Threat → List (List Char) → Prop where
  | done {earlier : List Threat} : Decorates earlier [] []
  | blank {earlier threats : List Threat} {piece : List Char} {pieces : List (List Char)}
      (blank : ∀ character ∈ piece, Text.isBlank character = true)
      (others : Decorates earlier threats pieces) : Decorates earlier threats (piece :: pieces)
  | again {earlier threats : List Threat} {threat : Threat} {piece : List Char}
      {pieces : List (List Char)} (seen : threat ∈ earlier) (spells : Spells piece threat)
      (others : Decorates earlier threats pieces) : Decorates earlier threats (piece :: pieces)
  | next {earlier threats : List Threat} {threat : Threat} {piece : List Char}
      {pieces : List (List Char)} (spells : Spells piece threat)
      (others : Decorates (earlier ++ [threat]) threats pieces) :
      Decorates earlier (threat :: threats) (piece :: pieces)

section Written

variable {text name : String} {piece : List Char} {pieces : List (List Char)} {threat : Threat}
  {named earlier threats : List Threat}

/-- Neither blanks nor commas stand in names. -/
theorem clear_of_sameLetters (same : Text.sameLetters threat.apiName name = true) :
    (∀ character ∈ name.toList, Text.isBlank character = false) ∧ ',' ∉ name.toList ∧
      name.toList ≠ [] := by
  have same' : Text.sameLetters name threat.apiName = true :=
    Text.sameLetters_iff.mpr (Text.sameLetters_iff.mp same).symm
  refine ⟨?_, ?_, ?_⟩
  · apply Text.solid_of_sameLetters same'
    apply Text.solid_of_all
    cases threat <;> decide
  · intro mem
    have mem_name := Text.mem_of_sameLetters same' rfl mem
    revert mem_name
    cases threat <;> decide
  · intro empty
    have lower := Text.sameLetters_iff.mp same
    rw [empty] at lower
    revert lower
    cases threat <;> decide

theorem trimBlanks_of_spells (spells : Spells piece threat) :
    Text.sameLetters threat.apiName (String.ofList (Text.trimBlanks piece)) = true ∧
      Text.trimBlanks piece ≠ [] ∧ ',' ∉ piece := by
  rcases spells with ⟨name, same, padded⟩
  rcases clear_of_sameLetters same with ⟨solid, comma, some⟩
  have name_eq := (Text.isPadded_iff solid).mp padded
  refine ⟨by rwa [name_eq, String.ofList_toList], name_eq ▸ some, ?_⟩
  rcases padded with ⟨before, behind, blank, blank', rfl⟩
  have visible : Text.isBlank ',' = false := by decide
  simp only [List.mem_append, not_or]
  exact ⟨⟨Text.not_mem_of_blank visible blank, comma⟩, Text.not_mem_of_blank visible blank'⟩

theorem Decorates.comma_not_mem (decorates : Decorates earlier threats pieces) :
    ∀ piece ∈ pieces, ',' ∉ piece := by
  induction decorates with
  | done => simp
  | blank blank _ ih =>
      exact List.forall_mem_cons.mpr ⟨Text.not_mem_of_blank (by decide) blank, ih⟩
  | again _ spells _ ih => exact List.forall_mem_cons.mpr ⟨(trimBlanks_of_spells spells).2.2, ih⟩
  | next spells _ ih => exact List.forall_mem_cons.mpr ⟨(trimBlanks_of_spells spells).2.2, ih⟩

theorem namesIn_blank (blank : ∀ character ∈ piece, Text.isBlank character = true) :
    namesIn (piece :: pieces) = namesIn pieces := by
  have empty : Text.trimBlanks piece = [] := by
    rw [← List.append_nil piece, Text.trimBlanks_append_left blank]
    rfl
  rw [namesIn, List.map_cons, empty, List.filter_cons_of_neg (by simp), namesIn]

theorem namesIn_spelled (spells : Spells piece threat) :
    namesIn (piece :: pieces) = String.ofList (Text.trimBlanks piece) :: namesIn pieces := by
  rw [namesIn, List.map_cons, List.filter_cons_of_pos (by simp [(trimBlanks_of_spells spells).2.1]),
    List.map_cons, namesIn]

/-- Threats that are spelled once more are seen, and so those that remain are the ones in order. -/
theorem Decorates.names (decorates : Decorates earlier threats pieces)
    (once : (earlier ++ threats).Nodup) (concrete : Threat.unspecified ∉ earlier ++ threats) :
    ∃ named, List.Forall₂ Names (namesIn pieces) named ∧
      named.foldl see earlier = earlier ++ threats := by
  induction decorates with
  | done => exact ⟨[], .nil, (List.append_nil _).symm⟩
  | blank blank _ ih =>
      rw [namesIn_blank blank]
      exact ih once concrete
  | @again earlier threats threat _ _ seen spells _ ih =>
      rcases ih once concrete with ⟨named, names, read⟩
      have known : threat ≠ .unspecified :=
        ne_of_mem_of_not_mem (List.mem_append_left _ seen) concrete
      refine ⟨threat :: named, ?_, ?_⟩
      · rw [namesIn_spelled spells]
        exact .cons ⟨known, (trimBlanks_of_spells spells).1⟩ names
      · rw [List.foldl_cons, see, if_pos seen, read]
  | @next earlier threats threat _ _ spells _ ih =>
      rw [List.append_cons] at once concrete
      rcases ih once concrete with ⟨named, names, read⟩
      have known : threat ≠ .unspecified := ne_of_mem_of_not_mem (by simp) concrete
      have new : threat ∉ earlier := by
        intro seen
        have apart := (List.nodup_append.mp (List.nodup_append.mp once).1).2.2
        exact apart threat seen threat (List.mem_singleton_self threat) rfl
      refine ⟨threat :: named, ?_, ?_⟩
      · rw [namesIn_spelled spells]
        exact .cons ⟨known, (trimBlanks_of_spells spells).1⟩ names
      · rw [List.foldl_cons, see, if_neg new, read, ← List.append_cons]

theorem listed_of_sameLetters (all : Text.sameLetters (Text.trim text) "ALL" = true) :
    listed text = [Text.trim text] := by
  have solid : ∀ character ∈ (Text.trim text).toList, Text.isBlank character = false :=
    Text.solid_of_sameLetters all (Text.solid_of_all (by decide))
  have comma : ',' ∉ (Text.trim text).toList := fun mem =>
    absurd (Text.mem_of_sameLetters all rfl mem) (by decide)
  have trimmed : Text.trimBlanks (Text.trim text).toList = (Text.trim text).toList :=
    (Text.isPadded_iff solid).mp ⟨[], [], by simp, by simp, by simp⟩
  have filled : (Text.trim text).toList ≠ [] := by
    intro empty
    have lower := Text.sameLetters_iff.mp all
    rw [empty] at lower
    exact absurd lower (by decide)
  rw [← listed_trim, listed, List.splitOn_eq_singleton comma, namesIn, List.map_singleton, trimmed,
    List.filter_cons_of_pos (by simpa using filled), List.filter_nil, List.map_singleton,
    String.ofList_toList]

/-- A list with a name in it is neither empty nor the word for all threats. -/
theorem not_meansAll_of_names (names : List.Forall₂ Names (listed text) named)
    (some : named ≠ []) : ¬MeansAll text := by
  rintro (empty | all)
  · rw [← listed_trim, empty] at names
    cases names
    exact some rfl
  · rw [listed_of_sameLetters all] at names
    cases names with
    | @cons _ threat _ _ first _ =>
        have same := (Text.sameLetters_iff.mp first.2).trans (Text.sameLetters_iff.mp all)
        revert same
        cases threat <;> decide

theorem Decorates.ne_nil (decorates : Decorates earlier threats pieces) (some : threats ≠ []) :
    pieces ≠ [] := by
  cases decorates with
  | done => exact absurd rfl some
  | _ => exact List.cons_ne_nil _ _

/-- However a list of concrete threats is written, it is read as this list. -/
theorem Decorates.parse_eq (decorates : Decorates [] threats pieces) (some : threats ≠ [])
    (once : threats.Nodup) (concrete : .unspecified ∉ threats) :
    parse (String.ofList ([','].intercalate pieces)) = .ok threats := by
  have listed_eq : listed (String.ofList ([','].intercalate pieces)) = namesIn pieces := by
    rw [listed, String.toList_ofList,
      List.splitOn_intercalate ',' decorates.comma_not_mem (decorates.ne_nil some)]
  rcases decorates.names once concrete with ⟨named, names, read⟩
  have distinct_eq : distinct named = threats := (foldl_see [] named).symm.trans read
  rw [← listed_eq] at names
  have filled : named ≠ [] := by
    rintro rfl
    exact some distinct_eq.symm
  rw [parse_of_names (not_meansAll_of_names names filled) names, distinct_eq]

end Written

/-- Every text is read as the list of the names in it, and every list of concrete threats is read
back from all ways of writing it. -/
theorem reads_listed_names :
    (∀ text, ReadsNames text) ∧
    ∀ threats pieces, threats ≠ [] → threats.Nodup → .unspecified ∉ threats →
      Decorates [] threats pieces →
        parse (String.ofList ([','].intercalate pieces)) = .ok threats :=
  ⟨readsNames, fun _ _ some once concrete decorates => decorates.parse_eq some once concrete⟩

/-- Two threats in other letters than their own, with blanks, an empty part and a repeat. -/
theorem reads_listed_names_decorated :
    let pieces := [['\u00a0'] ++ "unwanted_Software ".toList, [], "Malware\t".toList,
      " UNWANTED_SOFTWARE".toList]
    let text := "\u00a0unwanted_Software ,,Malware\t, UNWANTED_SOFTWARE"
    Decorates [] [.unwantedSoftware, .malware] pieces ∧
      parse text = .ok [.unwantedSoftware, .malware] := by
  intro pieces text
  have first : Spells (['\u00a0'] ++ "unwanted_Software ".toList) .unwantedSoftware :=
    ⟨"unwanted_Software", by decide, ['\u00a0'], [' '], List.all_eq_true.mp (by decide),
      List.all_eq_true.mp (by decide), by decide⟩
  have second : Spells "Malware\t".toList .malware :=
    ⟨"Malware", by decide, [], ['\t'], List.all_eq_true.mp (by decide),
      List.all_eq_true.mp (by decide), by decide⟩
  have third : Spells " UNWANTED_SOFTWARE".toList .unwantedSoftware :=
    ⟨"UNWANTED_SOFTWARE", by decide, [' '], [], List.all_eq_true.mp (by decide),
      List.all_eq_true.mp (by decide), by decide⟩
  have decorates : Decorates [] [.unwantedSoftware, .malware] pieces :=
    .next first (.blank (by simp) (.next second (.again (by decide) third .done)))
  have written : String.ofList ([','].intercalate pieces) = text := by decide
  have read := reads_listed_names.2 [.unwantedSoftware, .malware] pieces (by decide) (by decide)
    (by decide) decorates
  rw [written] at read
  exact ⟨decorates, read⟩

end Subscription

end LinkGuard
