import LinkGuard.Proofs.Outcome
import LinkGuard.Url.Parser

/-!
# Hosts of links

Whatever text a link is read from, its host has no control characters: a domain name refuses them, an
address is written with digits and signs, and any other host has them written with percent signs. In
particular a host has no line ends.
-/

namespace LinkGuard

/-- The text has no control characters. -/
def IsPrintable (text : List Char) : Prop :=
  ∀ character ∈ text, 0x20 ≤ character.toNat

section Texts

variable {text front back : List Char} {texts : List (List Char)} {separator : List Char}

instance : Decidable (IsPrintable text) :=
  List.decidableBAll (fun character : Char => 0x20 ≤ character.toNat) text

theorem isPrintable_append :
    IsPrintable (front ++ back) ↔ IsPrintable front ∧ IsPrintable back := by
  simp only [IsPrintable, List.mem_append, or_imp, forall_and]

theorem isPrintable_flatten_intersperse (printable : ∀ text ∈ texts, IsPrintable text)
    (between : IsPrintable separator) : IsPrintable (texts.intersperse separator).flatten := by
  induction texts with
  | nil => simp [IsPrintable]
  | cons text texts ih =>
      have own := printable text List.mem_cons_self
      have others := ih fun other mem => printable other (List.mem_cons_of_mem _ mem)
      cases texts with
      | nil => simpa using own
      | cons next texts =>
          rw [List.intersperse_cons_cons, List.flatten_cons, List.flatten_cons]
          exact isPrintable_append.mpr ⟨own, isPrintable_append.mpr ⟨between, others⟩⟩

theorem isPrintable_toDigits {base : Nat} (large : 1 < base) (value : Nat) :
    IsPrintable (Nat.toDigits base value) := by
  have digit (value : Nat) : 0x20 ≤ (Nat.digitChar value).toNat := by
    match value with
    | 0 | 1 | 2 | 3 | 4 | 5 | 6 | 7 | 8 | 9 | 10 | 11 | 12 | 13 | 14 | 15 => decide
    | _ + 16 => simp [Nat.digitChar]
  induction value using Nat.strongRecOn with
  | ind value ih =>
      rw [Nat.toDigits_eq_if large]
      split
      · simpa [IsPrintable] using digit value
      · rw [isPrintable_append]
        refine ⟨ih _ (Nat.div_lt_self (by omega) large), ?_⟩
        simpa [IsPrintable] using digit _

theorem toNat_toLower {character : Char} (printable : 0x20 ≤ character.toNat) :
    0x20 ≤ character.toLower.toNat := by
  unfold Char.toLower
  split
  case isTrue capital =>
    have upper : character.toNat ≤ 90 := capital.2
    have shifted : (character.val + 32).toNat = (character.toNat + 32) % Nat.pow 2 32 := rfl
    have small : (character.toNat + 32) % Nat.pow 2 32 = character.toNat + 32 :=
      Nat.mod_eq_of_lt (Nat.lt_of_le_of_lt (Nat.add_le_add_right upper 32) (by decide))
    change 0x20 ≤ (character.val + 32).toNat
    omega
  case isFalse => exact printable

end Texts

namespace Address

theorem isPrintable_writeIpv4 (value : Nat) : IsPrintable (writeIpv4 value).toList := by
  rw [writeIpv4, String.toList_intercalate]
  apply isPrintable_flatten_intersperse
  · intro text mem
    simp only [List.map_map, List.mem_map, Function.comp_apply, Nat.toString_eq_repr,
      Nat.toList_repr] at mem
    rcases mem with ⟨unit, _, rfl⟩
    exact isPrintable_toDigits (by decide : 1 < 10) _
  · decide

theorem isPrintable_writePieces (pieces : List Nat) : IsPrintable (writePieces pieces).toList := by
  rw [writePieces, String.toList_intercalate]
  apply isPrintable_flatten_intersperse
  · intro text mem
    simp only [List.map_map, List.mem_map, Function.comp_apply, String.toList_ofList] at mem
    rcases mem with ⟨piece, _, rfl⟩
    exact isPrintable_toDigits (by decide : 1 < 16) _
  · decide

theorem isPrintable_writeIpv6 (pieces : List Nat) : IsPrintable (writeIpv6 pieces).toList := by
  have colons : IsPrintable "::".toList := by decide
  rw [writeIpv6]
  split
  · exact isPrintable_writePieces _
  · simp only [String.toList_append, isPrintable_append]
    exact ⟨⟨isPrintable_writePieces _, colons⟩, isPrintable_writePieces _⟩

end Address

namespace Domain

variable {name written : List Char}

theorem isPrintable_of_not_forbidden (allowed : name.any isForbidden = false) :
    IsPrintable name := by
  intro character mem
  have own : isForbidden character = false := by
    simpa using List.any_eq_false.mp allowed character mem
  simp only [isForbidden, Bool.or_eq_false_iff, decide_eq_false_iff_not] at own
  omega

theorem isPrintable_of_writeMapped? (found : writeMapped? name = some written) :
    IsPrintable written := by
  simp only [writeMapped?, Option.bind_eq_bind, Option.bind_eq_some_iff] at found
  rcases found with ⟨mapped, _, labels, _, found⟩
  split at found
  case isTrue fit =>
    cases found
    apply isPrintable_flatten_intersperse
    · intro text mem
      rcases List.mem_map.mp mem with ⟨label, label_mem, rfl⟩
      have fits := List.all_eq_true.mp fit label label_mem
      simp only [Label.fits, Bool.and_eq_true, Bool.not_eq_true'] at fits
      exact isPrintable_of_not_forbidden fits.1.1.2
    · decide
  case isFalse => cases found

theorem isPrintable_of_toAscii? (found : toAscii? name = some written) : IsPrintable written := by
  rw [toAscii?] at found
  split at found
  case isTrue =>
    split at found
    case isTrue => cases found
    case isFalse allowed =>
      cases found
      intro character mem
      rcases List.mem_map.mp mem with ⟨capital, capital_mem, rfl⟩
      have printable := isPrintable_of_not_forbidden (Bool.eq_false_iff.mpr allowed)
      exact toNat_toLower (printable capital capital_mem)
  case isFalse => exact isPrintable_of_writeMapped? found

end Domain

theorem isPrintable_encodeByte (byte : UInt8) :
    IsPrintable ((Percent.encodeByte byte).map fun byte => Char.ofNat byte.toNat) := by
  have each : ∀ code < 16,
      0x20 ≤ (Char.ofNat (Percent.hexDigit (UInt8.ofNat code)).toNat).toNat := by
    decide
  have bound := byte.toNat_lt
  have high := each (byte / 16).toNat (by simp; omega)
  have low := each (byte % 16).toNat (by simp; omega)
  simp only [UInt8.ofNat_toNat] at high low
  simp only [Percent.encodeByte, List.map_cons, List.map_nil, IsPrintable, List.forall_mem_cons,
    List.not_mem_nil, false_implies, implies_true, and_true]
  exact ⟨by decide, high, low⟩

theorem Url.Component.isPrintable_write (component : Url.Component) (characters : List Char) :
    IsPrintable (component.write characters) := by
  intro character mem
  rcases List.mem_flatMap.mp mem with ⟨source, _, mem⟩
  rw [writeChar] at mem
  split at mem
  case isTrue lets =>
    simp only [Component.lets, Bool.and_eq_true, decide_eq_true_eq] at lets
    rw [List.mem_singleton.mp mem]
    exact lets.1.1
  case isFalse =>
    rw [List.map_flatMap] at mem
    rcases List.mem_flatMap.mp mem with ⟨byte, _, mem⟩
    exact isPrintable_encodeByte byte character mem

namespace Host

variable {written : List Char} {host : String}

theorem isPrintable_of_bracketed? (found : bracketed? written = some (.ok host)) :
    IsPrintable host.toList := by
  have brackets : IsPrintable "[".toList ∧ IsPrintable "]".toList := by decide
  unfold bracketed? at found
  split at found
  case h_1 =>
    split at found
    case isTrue =>
      split at found
      case h_1 pieces _ =>
        cases found
        simp only [String.toList_append, isPrintable_append]
        exact ⟨⟨brackets.1, Address.isPrintable_writeIpv6 _⟩, brackets.2⟩
      case h_2 => cases found
    case isFalse => cases found
  case h_2 => cases found

theorem isPrintable_of_parse (parsed : parse written = .ok host) : IsPrintable host.toList := by
  unfold parse at parsed
  split at parsed
  case h_1 bracketed_eq =>
    rw [parsed] at bracketed_eq
    exact isPrintable_of_bracketed? bracketed_eq
  case h_2 =>
    split at parsed
    case h_1 => cases parsed
    case h_2 =>
      split at parsed
      case h_1 => cases parsed
      case h_2 => cases parsed
      case h_3 domain _ found =>
        dsimp only at parsed
        split at parsed
        case isTrue =>
          split at parsed
          case h_1 =>
            cases parsed
            exact Address.isPrintable_writeIpv4 _
          case h_2 => cases parsed
        case isFalse =>
          cases parsed
          rw [String.toList_ofList]
          exact Domain.isPrintable_of_toAscii? found

theorem isPrintable_of_parseOpaque (parsed : parseOpaque written = .ok host) :
    IsPrintable host.toList := by
  unfold parseOpaque at parsed
  split at parsed
  case h_1 bracketed_eq =>
    rw [parsed] at bracketed_eq
    exact isPrintable_of_bracketed? bracketed_eq
  case h_2 =>
    split at parsed
    case isTrue => cases parsed
    case isFalse =>
      cases parsed
      rw [String.toList_ofList]
      exact Url.Component.isPrintable_write _ _

end Host

namespace Url

/-- The host, if there is one, has no control characters. -/
def HasPrintableHost (url : Url) : Prop :=
  ∀ host, url.host = some host → IsPrintable host.toList

variable {kind : SchemeKind} {scheme : String} {text beginning : List Char} {url found : Url}

/-- What a path, a query and a fragment add to a link: nothing else of it changes. -/
def Extends (url found : Url) : Prop :=
  ∃ path query fragment, found = { url with path, query, fragment }

theorem Extends.host_eq (extended : url.Extends found) : found.host = url.host := by
  rcases extended with ⟨_, _, _, rfl⟩
  rfl

theorem Extends.port_eq (extended : url.Extends found) : found.port = url.port := by
  rcases extended with ⟨_, _, _, rfl⟩
  rfl

theorem extends_readPath (url : Url) : url.Extends (readPath kind beginning text url).1 := by
  unfold readPath
  rcases splitTail text with ⟨path, tail⟩
  rcases read_eq : Path.read kind.rules beginning path with ⟨written, drive⟩
  simp only [read_eq]
  exact ⟨_, _, _, rfl⟩

theorem extends_readRootedPath (url : Url) : url.Extends (readRootedPath kind text url).1 := by
  unfold readRootedPath
  split
  · split
    · exact extends_readPath url
    · exact ⟨_, _, _, rfl⟩
  · split
    · exact extends_readPath url
    · split
      · exact ⟨_, _, _, rfl⟩
      · split <;> exact extends_readPath url

theorem hasPrintableHost_of_readAuthority (read_eq : readAuthority kind scheme text = .ok found) :
    found.HasPrintableHost := by
  have finish {host username : String} {password : Option String} {port : Option Nat}
      {rest : List Char} (printable : IsPrintable host.toList)
      (read_eq : (if host = "" ∧ (username ≠ "" ∨ password.isSome) then .error .emptyHost
        else .ok (readRootedPath kind rest
          { scheme, username, password, port, rooted := true
            host := if host = "" then none else some host }).1 : Except UrlError Url) =
          .ok found) : found.HasPrintableHost := by
    split at read_eq
    case isTrue => cases read_eq
    case isFalse =>
      cases read_eq
      intro other other_eq
      rw [(extends_readRootedPath _).host_eq] at other_eq
      split at other_eq
      case isTrue => cases other_eq
      case isFalse =>
        cases other_eq
        exact printable
  unfold readAuthority at read_eq
  dsimp only at read_eq
  -- the same with a user in front of the host and without, and for both kinds of hosts
  split at read_eq
  all_goals
    split at read_eq
    case isTrue => cases read_eq
    case isFalse =>
      split at read_eq
      case isTrue => cases read_eq
      case isFalse =>
        split at read_eq
        all_goals
          rcases exists_of_bind_eq_ok read_eq with ⟨host, host_eq, read_eq⟩
          have printable : IsPrintable host.toList := by
            first
            | exact Host.isPrintable_of_parse host_eq
            | exact Host.isPrintable_of_parseOpaque host_eq
          split at read_eq
          case isTrue => cases read_eq
          case isFalse =>
            split at read_eq
            all_goals
              rcases exists_of_bind_eq_ok read_eq with ⟨⟨port, rest⟩, _, read_eq⟩
              exact finish printable read_eq

theorem hasPrintableHost_of_none (none_eq : url.host = none) : url.HasPrintableHost := by
  intro host host_eq
  rw [none_eq] at host_eq
  cases host_eq

theorem hasPrintableHost_of_readFile (read_eq : readFile text = .ok found) :
    found.HasPrintableHost := by
  have unnamed (beginning text : List Char) :
      (readPath .file beginning text { scheme := "file", rooted := true }).1.HasPrintableHost :=
    hasPrintableHost_of_none (extends_readPath _).host_eq
  unfold readFile at read_eq
  dsimp only at read_eq
  split at read_eq
  case h_1 =>
    split at read_eq
    case isTrue =>
      split at read_eq
      case isTrue =>
        split at read_eq
        case isTrue =>
          cases read_eq
          exact unnamed _ _
        case isFalse =>
          rcases exists_of_bind_eq_ok read_eq with ⟨host, host_eq, read_eq⟩
          split at read_eq
          case isTrue =>
            cases read_eq
            exact unnamed _ _
          case isFalse =>
            cases read_eq
            intro other other_eq
            split at other_eq
            case isTrue => cases other_eq
            case isFalse =>
              rw [(extends_readRootedPath _).host_eq] at other_eq
              cases other_eq
              exact Host.isPrintable_of_parse host_eq
      case isFalse =>
        cases read_eq
        exact unnamed _ _
    case isFalse =>
      cases read_eq
      exact unnamed _ _
  case h_2 =>
    cases read_eq
    exact unnamed _ _
  case h_3 =>
    cases read_eq
    exact unnamed _ _

theorem host_readPlain : (readPlain scheme text).host = none := by
  unfold readPlain
  split
  · exact (extends_readPath _).host_eq
  · rfl

theorem hasPrintableHost_of_parseChars (parsed : parseChars text = .ok url) :
    url.HasPrintableHost := by
  unfold parseChars at parsed
  split at parsed
  case h_1 => cases parsed
  case h_2 scheme rest _ =>
    split at parsed
    case h_1 => exact hasPrintableHost_of_readFile parsed
    case h_2 => exact hasPrintableHost_of_readAuthority parsed
    case h_3 =>
      split at parsed
      case h_1 => exact hasPrintableHost_of_readAuthority parsed
      case h_2 =>
        cases parsed
        exact hasPrintableHost_of_none host_readPlain

end Url

end LinkGuard
