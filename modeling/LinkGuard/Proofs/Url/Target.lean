import LinkGuard.Proofs.Url.Names
import LinkGuard.Proofs.Url.Paths

/-!
# Targets without a scheme

A host name, perhaps a port, and a plain path are a target that a visitor means as `http`. With
`http://` in front they are read as meant. Without it, the name in front of a port is taken for a
scheme, so such a target is read as meant only when it has no port.
-/

namespace LinkGuard

namespace Url

variable {scheme : String} {name text path written : List Char} {character : Char}
  {port : Option ℕ} {url : Url}

/-- A port behind its colon. -/
def writtenPort : Option ℕ → List Char
  | none => []
  | some port => ':' :: Nat.toDigits 10 port

/-- A host name, perhaps a port, and a path. -/
def targetText (name : List Char) (port : Option ℕ) (path : List Char) : List Char :=
  name ++ writtenPort port ++ path

/-- The link a visitor means by such a target. -/
def meantLink (name : List Char) (port : Option ℕ) (path : List Char) : Url where
  scheme := "http"
  rooted := true
  host := some (String.ofList name)
  port := port
  path := rootedPath path

/-- The target is read as the link it means, which is also what `http://` in front of it makes. -/
def ReadAsMeant (name : List Char) (port : Option ℕ) (path : List Char) : Prop :=
  parseTarget (String.ofList (targetText name port path)) = .ok (meantLink name port path) ∧
    parse (String.ofList ("http://".toList ++ targetText name port path)) =
      .ok (meantLink name port path)

theorem isSchemeChar_of_isNameChar (isName : Host.isNameChar character = true) :
    isSchemeChar character = true := by
  simp only [Host.isNameChar, Bool.or_eq_true, beq_iff_eq] at isName
  rcases isName with ((lower | digit) | rfl) | rfl
  · rw [isSchemeChar, Text.isAlphanum_of_isLower lower, Bool.true_or]
  · rw [isSchemeChar, Text.isAlphanum_of_isDigit digit, Bool.true_or]
  · decide
  · decide

theorem isNameChar_of_isDigit (digit : character.isDigit = true) :
    Host.isNameChar character = true := by
  rw [Host.isNameChar, digit, Bool.or_true, Bool.true_or, Bool.true_or]

theorem mem_writtenPort (mem : character ∈ writtenPort port) :
    character = ':' ∨ character.isDigit = true := by
  cases port with
  | none => cases mem
  | some port =>
      rw [writtenPort, List.mem_cons] at mem
      exact mem.imp_right (Text.isDigit_toDigits character)

theorem graphic_of_mem_targetText (characters : ∀ character ∈ name, Host.isNameChar character = true)
    (isPlain : IsPlainPath path) :
    ∀ character ∈ targetText name port path, 0x20 < character.toNat := by
  have graphic {character : Char} (isName : Host.isNameChar character = true) :
      0x20 < character.toNat := by
    have spec := (Host.isNameChar_spec isName).2.2
    simp only [Domain.isForbidden, Bool.or_eq_false_iff, decide_eq_false_iff_not] at spec
    omega
  intro character mem
  rw [targetText, List.mem_append, List.mem_append] at mem
  rcases mem with (mem | mem) | mem
  · exact graphic (characters character mem)
  · rcases mem_writtenPort mem with rfl | digit
    · decide
    · exact graphic (isNameChar_of_isDigit digit)
  · exact (isPathChar_spec (isPlain.characters character mem)).1

/-- A text without blanks and controls counts as a whole. -/
theorem clean_eq (graphic : ∀ character ∈ text, 0x20 < character.toNat) : clean text = text := by
  have kept {text : List Char} (graphic : ∀ character ∈ text, 0x20 < character.toNat) :
      text.dropWhile (fun character => decide (character.toNat ≤ 0x20)) = text :=
    List.dropWhile_eq_self_iff.mpr fun filled => by
      have first := graphic _ (List.getElem_mem filled)
      simpa using first
  have allowed : ∀ character ∈ text, decide (character ∉ ['\t', '\n', '\r']) = true := by
    intro character mem
    have large := graphic character mem
    rw [decide_eq_true_eq]
    intro listed
    simp only [List.mem_cons, List.not_mem_nil, or_false] at listed
    rcases listed with rfl | rfl | rfl <;> exact absurd large (by decide)
  have reversed : ∀ character ∈ text.reverse, 0x20 < character.toNat := fun character mem =>
    graphic character (List.mem_reverse.mp mem)
  unfold clean
  simp only [kept graphic, kept reversed, List.reverse_reverse]
  exact List.filter_eq_self.mpr allowed

/-- What begins with a letter and goes on in the characters of schemes is one, up to a colon. -/
theorem splitScheme?_of_colon {first : Char} {others : List Char} (alpha : first.isAlpha = true)
    (allowed : ∀ character ∈ first :: others, isSchemeChar character = true) (rest : List Char) :
    splitScheme? (first :: others ++ ':' :: rest) =
      some (String.ofList ((first :: others).map Char.toLower), rest) := by
  have colon : ¬isSchemeChar ':' = true := by decide
  have taken : (first :: others ++ ':' :: rest).takeWhile isSchemeChar = first :: others := by
    rw [List.takeWhile_append_of_pos allowed, List.takeWhile_cons_of_neg colon, List.append_nil]
  rw [List.cons_append] at taken ⊢
  rw [splitScheme?]
  simp only [alpha, if_true, taken]
  rw [← List.cons_append, List.drop_left]
  rfl

theorem splitScheme?_of_not_mem (unmarked : ':' ∉ text) : splitScheme? text = none := by
  unfold splitScheme?
  split
  case h_1 first rest =>
    split
    case isTrue =>
      dsimp only
      split
      case h_1 behind drop_eq =>
        refine absurd ?_ unmarked
        exact List.mem_of_mem_drop (drop_eq ▸ List.mem_cons_self)
      case h_2 => rfl
    case isFalse => rfl
  case h_2 => rfl

theorem portValue?_toDigits {port : ℕ} (fits : port < 65536) :
    portValue? (Nat.toDigits 10 port) = some port := by
  have reads (digits : List Char) (value : ℕ) (below : Nat.ofDigitChars 10 digits value < 65536) :
      digits.foldlM (fun value digit =>
        let longer := value * 10 + (digit.toNat - '0'.toNat)
        if longer < 65536 then some longer else none) value =
      some (Nat.ofDigitChars 10 digits value) := by
    induction digits generalizing value with
    | nil => rfl
    | cons digit digits ih =>
        rw [Nat.ofDigitChars_cons, Nat.mul_comm] at below ⊢
        have smaller := Nat.lt_of_le_of_lt (Text.le_ofDigitChars digits _) below
        rw [List.foldlM_cons]
        simp only [smaller, if_true]
        exact ih _ below
  rw [portValue?, reads _ _ (by rwa [Nat.ofDigitChars_ten_toDigits]), Nat.ofDigitChars_ten_toDigits]

theorem readPort_toDigits {port : ℕ} (fits : port < 65536) (other : defaultPort? scheme ≠ some port)
    (rooted : IsRooted path) :
    readPort scheme (Nat.toDigits 10 port ++ path) = .ok (some port, path) := by
  have taken : (Nat.toDigits 10 port ++ path).takeWhile Char.isDigit = Nat.toDigits 10 port :=
    takeWhile_append_rooted rooted Text.isDigit_toDigits rfl
  have ended : path.head?.any (!endsPort ·) = false := by
    rcases rooted with rfl | ⟨rest, rfl⟩ <;> rfl
  rw [readPort]
  simp only [taken, List.drop_left, portValue?_toDigits fits, ended, Bool.false_eq_true, if_false,
    Nat.toDigits_ne_nil, false_or, other]

theorem takeHost_of_not_mem (unmarked : ∀ character ∈ written, character ≠ ':' ∧ character ≠ '[')
    (port : Option ℕ) : takeHost false (written ++ writtenPort port) = written := by
  induction written with
  | nil =>
      cases port with
      | none => rfl
      | some port => rfl
  | cons first written ih =>
      rcases unmarked first List.mem_cons_self with ⟨notColon, notBracket⟩
      rw [List.cons_append, takeHost, if_neg (by simp [notColon]), if_neg notBracket, ite_self,
        ih fun character mem => unmarked character (List.mem_cons_of_mem _ mem)]

theorem splitUserInfo?_of_not_mem (unmarked : '@' ∉ text) : splitUserInfo? text = none := by
  have kept : text.reverse.takeWhile (fun character => decide (character ≠ '@')) = text.reverse :=
    List.takeWhile_eq_self_iff.mpr fun character mem => by
      rw [decide_eq_true_eq]
      rintro rfl
      exact unmarked (List.mem_reverse.mp mem)
  rw [splitUserInfo?]
  simp only [kept, List.reverse_reverse, if_true]

/-- No character of a host name has a meaning in an authority. -/
theorem authority_spec_of_isNameChar (isName : Host.isNameChar character = true) :
    endsAuthority .special character = false ∧ character ≠ '@' ∧ character ≠ ':' ∧
      character ≠ '[' := by
  have allowed := (Host.isNameChar_spec isName).2.2
  simp only [Domain.isForbidden, Bool.or_eq_false_iff, List.contains_eq_mem, decide_eq_false_iff_not,
    List.mem_cons, List.not_mem_nil, or_false, not_or] at allowed
  simp [endsAuthority, allowed]

/-- A host without a user in front of it, perhaps a port, and a path. -/
theorem readAuthority_eq (scheme : String) (port : Option ℕ)
    (allowed : ∀ character ∈ written, Host.isNameChar character = true)
    (filled : written ≠ [])
    (fits : ∀ value, port = some value → value < 65536 ∧ defaultPort? scheme ≠ some value)
    (rooted : IsRooted path) :
    readAuthority .special scheme (written ++ writtenPort port ++ path) = (do
      let host ← Host.parse written
      if host = "" ∧ port.isSome then .error .emptyHost
      else
        .ok (readRootedPath .special path
          { scheme, port, rooted := true, host := if host = "" then none else some host }).1) := by
  have spec : ∀ character ∈ written ++ writtenPort port,
      endsAuthority .special character = false ∧ character ≠ '@' := by
    intro character mem
    rcases List.mem_append.mp mem with mem | mem
    · have own := authority_spec_of_isNameChar (allowed character mem)
      exact ⟨own.1, own.2.1⟩
    · rcases mem_writtenPort mem with rfl | digit
      · decide
      · have own := authority_spec_of_isNameChar (isNameChar_of_isDigit digit)
        exact ⟨own.1, own.2.1⟩
  have authority_eq : (written ++ writtenPort port ++ path).takeWhile
      (fun character => !endsAuthority .special character) = written ++ writtenPort port :=
    takeWhile_append_rooted rooted (fun character mem => by rw [(spec character mem).1]; rfl) rfl
  have noUser : splitUserInfo? (written ++ writtenPort port) = none :=
    splitUserInfo?_of_not_mem fun mem => (spec '@' mem).2 rfl
  have host_eq : takeHost false (written ++ writtenPort port) = written :=
    takeHost_of_not_mem (fun character mem =>
      (authority_spec_of_isNameChar (allowed character mem)).2.2) port
  have noInfo : readUserInfo [] = ("", none) := rfl
  have special : SchemeKind.special.isSpecial = true := rfl
  have ended : path.head? ≠ some ':' := by rcases rooted with rfl | ⟨rest, rfl⟩ <;> simp
  unfold readAuthority
  simp only [authority_eq, List.drop_left, noUser, host_eq, filled, Option.getD_none, noInfo,
    special, if_true, reduceCtorEq, false_and, and_false, if_false, Option.isSome_none, ne_eq,
    not_true_eq_false, Bool.false_eq_true, or_self]
  refine congrArg (Host.parse written >>= ·) (funext fun host => ?_)
  cases port with
  | none =>
      simp only [writtenPort, List.nil_append, ended, and_false, if_false, Option.isSome_none,
        Bool.false_eq_true]
      rcases rooted with rfl | ⟨rest, rfl⟩ <;> rfl
  | some port =>
      rcases fits port rfl with ⟨small, other⟩
      simp only [writtenPort, List.cons_append, List.head?_cons, and_true, Option.isSome_some,
        readPort_toDigits small other rooted, bind, Except.bind]

/-- A port that a link to `http` shows. -/
def IsShownPort (port : ℕ) : Prop :=
  1 ≤ port ∧ port ≤ 65535 ∧ port ≠ 80

theorem exists_targetText (isName : Host.IsHostName name) (port : Option ℕ) (path : List Char) :
    ∃ first rest, targetText name port path = first :: rest ∧ first.isLower = true := by
  rcases isName.letter with ⟨first, rest, rfl, lower⟩
  exact ⟨first, rest ++ writtenPort port ++ path, by simp [targetText], lower⟩

theorem parseChars_http (isName : Host.IsHostName name) (isPlain : IsPlainPath path)
    (shown : ∀ value, port = some value → IsShownPort value) :
    parseChars ("http://".toList ++ targetText name port path) =
      .ok (meantLink name port path) := by
  have graphic : ∀ character ∈ "http://".toList ++ targetText name port path,
      0x20 < character.toNat := by
    intro character mem
    rcases List.mem_append.mp mem with mem | mem
    · have each : "http://".toList.all (fun character => decide (0x20 < character.toNat)) = true :=
        by decide
      exact of_decide_eq_true (List.all_eq_true.mp each character mem)
    · exact graphic_of_mem_targetText isName.characters isPlain character mem
  have scheme_eq : splitScheme? ("http://".toList ++ targetText name port path) =
      some ("http", '/' :: '/' :: targetText name port path) :=
    splitScheme?_of_colon (by decide)
      (List.all_eq_true.mp (by decide : ('h' :: ['t', 't', 'p']).all isSchemeChar = true))
      ('/' :: '/' :: targetText name port path)
  have special : SchemeKind.of "http" = .special := by decide
  have behind : ('/' :: '/' :: targetText name port path).dropWhile
      (fun character => character = '/' ∨ character = '\\') = targetText name port path := by
    rcases exists_targetText isName port path with ⟨first, rest, text_eq, lower⟩
    have letter : ¬(first = '/' ∨ first = '\\') := by
      rintro (rfl | rfl) <;> cases lower
    rw [text_eq]
    simp [letter]
  have filled : name ≠ [] := by
    rcases isName.letter with ⟨first, rest, rfl, _⟩
    exact List.cons_ne_nil _ _
  have named : String.ofList name ≠ "" := by simpa using filled
  have fits : ∀ value, port = some value → value < 65536 ∧ defaultPort? "http" ≠ some value := by
    intro value port_eq
    rcases shown value port_eq with ⟨_, small, other⟩
    exact ⟨by omega, by simpa [defaultPort?] using other.symm⟩
  rw [parseChars, clean_eq graphic, scheme_eq]
  simp only [special, behind]
  rw [targetText, readAuthority_eq _ _ isName.characters filled fits isPlain.rooted,
    Host.parse_of_isHostName isName]
  simp only [bind, Except.bind, named, false_and, if_false, readRootedPath_plain isPlain]
  rfl

theorem parseTarget_of_none (isName : Host.IsHostName name) (isPlain : IsPlainPath path) :
    parseTarget (String.ofList (targetText name none path)) = .ok (meantLink name none path) := by
  have unmarked : ':' ∉ targetText name none path := by
    simp only [targetText, writtenPort, List.append_nil, List.mem_append, not_or]
    constructor
    · intro mem
      exact absurd (Host.isNameChar_spec (isName.characters ':' mem)).2.2 (by decide)
    · intro mem
      exact (isPathChar_spec (isPlain.characters ':' mem)).2.1 (by decide)
  have relative : parse (String.ofList (targetText name none path)) = .error .relativeWithoutBase := by
    rw [parse, String.toList_ofList, parseChars,
      clean_eq (graphic_of_mem_targetText isName.characters isPlain),
      splitScheme?_of_not_mem unmarked]
  have kept : (targetText name none path).dropWhile (fun character => character = '/') =
      targetText name none path := by
    rcases exists_targetText isName none path with ⟨first, rest, text_eq, lower⟩
    have letter : first ≠ '/' := by
      rintro rfl
      cases lower
    rw [text_eq]
    simp [letter]
  rw [parseTarget, relative]
  simp only [String.toList_ofList, kept]
  exact parseChars_http isName isPlain fun value none_eq => by cases none_eq

/-- The reading found a scheme, and no port behind it. -/
structure IsPortless (outcome : Except UrlError Url) : Prop where
  schemed : outcome ≠ .error .relativeWithoutBase
  portless : ∀ url, outcome = .ok url → url.port = none

namespace IsPortless

theorem ok (none_eq : url.port = none) : IsPortless (.ok url) where
  schemed := by rintro ⟨⟩
  portless := by
    rintro _ ⟨⟩
    exact none_eq

theorem bind {α : Type} {first : Except UrlError α} {next : α → Except UrlError Url}
    (schemed : first ≠ .error .relativeWithoutBase) (each : ∀ value, IsPortless (next value)) :
    IsPortless (first >>= next) := by
  cases first with
  | error error =>
      refine ⟨?_, by rintro _ ⟨⟩⟩
      rintro ⟨⟩
      exact schemed rfl
  | ok value => exact each value

end IsPortless

/-- A host is refused for what it is. -/
theorem hostParse_ne : Host.parse written ≠ .error .relativeWithoutBase := by
  unfold Host.parse Host.bracketed?
  grind

theorem isPortless_readFile : IsPortless (readFile text) := by
  have unported (beginning text : List Char) :
      IsPortless (.ok (readPath .file beginning text { scheme := "file", rooted := true }).1) :=
    .ok (extends_readPath _).port_eq
  unfold readFile
  dsimp only
  split
  case h_1 =>
    split
    case isTrue =>
      split
      case isTrue =>
        split
        case isTrue => exact unported _ _
        case isFalse =>
          refine .bind hostParse_ne fun host => ?_
          split
          case isTrue => exact unported _ _
          case isFalse =>
            refine .ok ?_
            split <;> exact (extends_readRootedPath _).port_eq
      case isFalse => exact unported _ _
    case isFalse => exact unported _ _
  case h_2 => exact unported _ _
  case h_3 => exact unported _ _

theorem port_readPlain : (readPlain scheme text).port = none := by
  unfold readPlain
  split
  · exact (extends_readPath _).port_eq
  · rfl

/-- With a port the name is taken for a scheme, and the port for a path or for a host. -/
theorem isPortless_parse {port : ℕ} (isName : Host.IsHostName name) (isPlain : IsPlainPath path) :
    IsPortless (parse (String.ofList (targetText name (some port) path))) := by
  have scheme_eq : splitScheme? (targetText name (some port) path) =
      some (String.ofList name, Nat.toDigits 10 port ++ path) := by
    rcases isName.letter with ⟨first, rest, rfl, lower⟩
    have lowered := Host.map_toLower_eq isName.characters
    have allowed := fun character mem => isSchemeChar_of_isNameChar (isName.characters character mem)
    have found := splitScheme?_of_colon (Text.isAlpha_of_isLower lower) allowed
      (Nat.toDigits 10 port ++ path)
    rw [lowered] at found
    simpa [targetText, writtenPort] using found
  rcases List.exists_cons_of_ne_nil (Nat.toDigits_ne_nil (b := 10) (n := port)) with
    ⟨digit, digits, digits_eq⟩
  have isDigits : ∀ character ∈ digit :: digits, character.isDigit = true :=
    digits_eq ▸ Text.isDigit_toDigits
  have first := isDigits digit List.mem_cons_self
  have notSlash : ¬(digit = '/' ∨ digit = '\\') := by
    rintro (rfl | rfl) <;> cases first
  rw [parse, String.toList_ofList, parseChars,
    clean_eq (graphic_of_mem_targetText isName.characters isPlain), scheme_eq, digits_eq]
  dsimp only
  split
  case h_1 => exact isPortless_readFile
  case h_2 =>
    have read_eq := readAuthority_eq (String.ofList name) none
      (fun character mem => isNameChar_of_isDigit (isDigits character mem)) (List.cons_ne_nil _ _)
      (by rintro _ ⟨⟩) isPlain.rooted
    rw [writtenPort, List.append_nil] at read_eq
    rw [List.cons_append, List.dropWhile_cons_of_neg (by simpa using notSlash), ← List.cons_append,
      read_eq]
    refine .bind hostParse_ne fun host => ?_
    rw [if_neg (by simp)]
    exact .ok (extends_readRootedPath _).port_eq
  case h_3 =>
    split
    case h_1 behind_eq =>
      rw [List.cons_append, List.cons.injEq] at behind_eq
      exact absurd (.inl behind_eq.1) notSlash
    case h_2 => exact .ok port_readPlain

/-- `http://` is put in front only when no scheme is found. -/
theorem parseTarget_of_schemed {text : String}
    (schemed : parse text ≠ .error .relativeWithoutBase) : parseTarget text = parse text := by
  unfold parseTarget
  split
  case h_1 relative => exact absurd relative schemed
  case h_2 => rfl

/-- With `http://` in front a target is the link it means. Without, it is that link exactly when it
has no port. -/
theorem readAsMeant_iff (isName : Host.IsHostName name) (isPlain : IsPlainPath path)
    (shown : ∀ value, port = some value → IsShownPort value) :
    parse (String.ofList ("http://".toList ++ targetText name port path)) =
        .ok (meantLink name port path) ∧
      (ReadAsMeant name port path ↔ port = none) := by
  have prefixed : parse (String.ofList ("http://".toList ++ targetText name port path)) =
      .ok (meantLink name port path) := by
    rw [parse, String.toList_ofList, parseChars_http isName isPlain shown]
  refine ⟨prefixed, ?_, ?_⟩
  · rintro ⟨read_eq, _⟩
    cases port with
    | none => rfl
    | some port =>
        have unported : IsPortless (parse (String.ofList (targetText name (some port) path))) :=
          isPortless_parse isName isPlain
        rw [parseTarget_of_schemed unported.schemed] at read_eq
        cases unported.portless _ read_eq
  · rintro rfl
    exact ⟨parseTarget_of_none isName isPlain, prefixed⟩

theorem isHostName_example : Host.IsHostName "example.com".toList where
  characters := List.all_eq_true.mp (by decide)
  letter := ⟨'e', "xample.com".toList, rfl, rfl⟩
  unmarked := by decide
  valid := ⟨"example.com", eq_ok_of_toOption (by decide +kernel)⟩

theorem readAsMeant_iff_example :
    ReadAsMeant "example.com".toList none "/a".toList ∧
      ¬ReadAsMeant "example.com".toList (some 8080) "/a".toList := by
  have isPlain : IsPlainPath "/a".toList := ⟨List.all_eq_true.mp (by decide), .inr ⟨['a'], rfl⟩⟩
  have shown : ∀ value, some 8080 = some value → IsShownPort value := by
    rintro _ ⟨⟩
    exact ⟨by decide, by decide, by decide⟩
  have unported : ∀ value, none = some value → IsShownPort value := by rintro _ ⟨⟩
  have alone := readAsMeant_iff isHostName_example isPlain unported
  have ported := readAsMeant_iff isHostName_example isPlain shown
  exact ⟨alone.2.mpr rfl, fun read => absurd (ported.2.mp read) (by decide)⟩

/-- The name is taken for a scheme and the port for an opaque path. -/
theorem port_read_as_path :
    parseTarget "example.com:8080" = .ok { scheme := "example.com", path := "8080" } ∧
      Host.IsHostName "example.com".toList ∧ IsShownPort 8080 ∧
      ¬ReadAsMeant "example.com".toList (some 8080) [] := by
  have read_eq : parseTarget "example.com:8080" = .ok { scheme := "example.com", path := "8080" } :=
    eq_ok_of_toOption (by decide +kernel)
  refine ⟨read_eq, isHostName_example, ⟨by decide, by decide, by decide⟩, ?_⟩
  rintro ⟨meant_eq, _⟩
  have text_eq : String.ofList (targetText "example.com".toList (some 8080) []) =
      "example.com:8080" := by decide +kernel
  rw [text_eq, read_eq] at meant_eq
  exact absurd (congrArg Url.scheme (Except.ok.inj meant_eq)) (by decide)

end Url

end LinkGuard
