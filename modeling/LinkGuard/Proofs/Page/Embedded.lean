import LinkGuard.Asset.Embedded
import LinkGuard.Proofs.Page.Slots

/-!
# The embedded templates

The embedded base page and the embedded fragments are flat templates: they are plain text but for
slots, and the base page includes the fragment on an indented line of its own. This is found by
cutting the texts at their slots.
-/

namespace LinkGuard.Page

open Template

/-- Cuts a text at its slots. As many characters as are passed belong to the slot before. -/
def cut : Nat → List Char → Flat
  | _, [] => ⟨[], []⟩
  | passed + 1, _ :: rest => cut passed rest
  | 0, character :: rest =>
    match Slot.all.find? fun slot => (Flat.tag slot.label).isPrefixOf (character :: rest) with
    | some slot =>
      let behind := cut (slot.label.length + 3) rest
      ⟨([], slot.label) :: behind.parts, behind.last⟩
    | none => (cut 0 rest).push character

/-- Splits a text at a tag. -/
def splitAt? (tag : List Char) : List Char → Option (List Char × List Char)
  | [] => none
  | character :: rest =>
    if tag.isPrefixOf (character :: rest) then some ([], (character :: rest).drop tag.length)
    else (splitAt? tag rest).map fun (before, behind) => (character :: before, behind)

/-- Cuts a page around the line that includes a fragment. -/
def cutAround? (tag text : List Char) : Option Surround :=
  (splitAt? tag text).map fun (before, behind) =>
    ⟨cut 0 (dropIndentEnd before), indentEnd before, cut 0 behind⟩

section Cutting

/-- The texts are plain and not empty, and each name is that of a slot. -/
structure IsCut (flat : Flat) : Prop where
  parts : ∀ part ∈ flat.parts, part.1 ≠ [] ∧ IsPlain part.1
  slots : HasSlots flat
  last : flat.last ≠ [] ∧ IsPlain flat.last

variable {flat : Flat}

instance : Decidable (IsCut flat) :=
  decidable_of_iff ((∀ part ∈ flat.parts, part.1 ≠ [] ∧ IsPlain part.1) ∧
    (∀ part ∈ flat.parts, ∃ slot ∈ Slot.all, slot.label = part.2) ∧
      flat.last ≠ [] ∧ IsPlain flat.last)
    ⟨fun ⟨parts, slots, last⟩ => ⟨parts, slots, last⟩,
      fun ⟨parts, slots, last⟩ => ⟨parts, slots, last⟩⟩

theorem IsCut.sound (isCut : IsCut flat) : flat.Sound where
  filled part mem := (isCut.parts part mem).1
  plain part mem := (isCut.parts part mem).2
  names part mem := by
    rcases isCut.slots part mem with ⟨slot, _, label_eq⟩
    rw [← label_eq]
    exact slot.isName_label
  lastFilled := isCut.last.1
  lastPlain := isCut.last.2

end Cutting

section Texts

variable {text indentation : List Char} {lines : List (List Char)} {flat : Flat} {page : Surround}
  {texts : List String}

/-- The lines are a flat template whose slots stand inside lines and show no link. -/
structure IsFragment (lines : List (List Char)) (flat : Flat) : Prop where
  written : flat.written = lines.flatMap (· ++ ['\n'])
  filled : lines ≠ []
  still : ∀ line ∈ lines, IsStill line
  isCut : IsCut flat
  inLine : flat.InLine
  noLink : ∀ part ∈ flat.parts, part.2 ≠ Slot.url.label

instance : Decidable (IsFragment lines flat) :=
  decidable_of_iff (_ ∧ _ ∧ _ ∧ _ ∧ _ ∧ _)
    ⟨fun ⟨written, filled, still, isCut, inLine, noLink⟩ =>
        ⟨written, filled, still, isCut, inLine, noLink⟩,
      fun ⟨written, filled, still, isCut, inLine, noLink⟩ =>
        ⟨written, filled, still, isCut, inLine, noLink⟩⟩

/-- The inside of the tag that includes the fragment. -/
def includeTag : List Char :=
  ['>', ' ', 't', 'h', 'r', 'e', 'a', 't']

theorem includes_includeTag : Includes includeTag fragmentName :=
  ⟨⟨by decide, by decide⟩, rfl⟩

/-- The text is a flat template around the line that includes the fragment. -/
structure IsPage (text : List Char) (page : Surround) : Prop where
  written : page.written includeTag = text
  front : IsCut page.front
  back : IsCut page.back
  opensLine : page.front.last.getLast? = some '\n'
  filled : page.indentation ≠ []
  blank : ∀ character ∈ page.indentation, character = ' '

instance decidableBlank : Decidable (∀ character ∈ text, character = ' ') :=
  List.decidableBAll (fun character : Char => character = ' ') text

instance : Decidable (IsPage text page) :=
  decidable_of_iff (_ ∧ _ ∧ _ ∧ _ ∧ _ ∧ _)
    ⟨fun ⟨written, front, back, opensLine, filled, blank⟩ =>
        ⟨written, front, back, opensLine, filled, blank⟩,
      fun ⟨written, front, back, opensLine, filled, blank⟩ =>
        ⟨written, front, back, opensLine, filled, blank⟩⟩

theorem IsPage.sound (isPage : IsPage text page) : page.Sound :=
  ⟨isPage.front.sound, isPage.back.sound, isPage.opensLine, isPage.filled, isPage.blank⟩

/-- Indenting a text of lines puts the indentation in front of each line. -/
theorem indentLines_lines (filled : lines ≠ []) (still : ∀ line ∈ lines, IsStill line) :
    indentation ++ indentLines indentation (lines.flatMap (· ++ ['\n'])) =
      lines.flatMap (indentation ++ · ++ ['\n']) := by
  induction lines with
  | nil => exact absurd rfl filled
  | cons line lines ih =>
      have own := still line List.mem_cons_self
      have whole : (line :: lines).flatMap (· ++ ['\n']) =
          line ++ '\n' :: lines.flatMap (· ++ ['\n']) := by
        simp
      rw [whole, indentLines_append own.endsLine_eq, indentLines_of_isStill own]
      cases lines with
      | nil => simp [indentLines]
      | cons next more =>
          have others := ih (List.cons_ne_nil _ _)
            fun other mem => still other (List.mem_cons_of_mem _ mem)
          rw [indentLines_cons (by simp), if_pos rfl, List.cons_append, others]
          simp

theorem toList_lines (texts : List String) :
    (Asset.lines texts).toList = (texts.map String.toList).flatMap (· ++ ['\n']) := by
  simp [Asset.lines, String.toList_join, List.flatMap_map]

theorem exists_isFragment (isFragment : IsFragment (texts.map String.toList)
    (cut 0 ((texts.map String.toList).flatMap (· ++ ['\n'])))) :
    ∃ lines flat, (Asset.lines texts).toList = lines.flatMap (· ++ ['\n']) ∧
      IsFragment lines flat :=
  ⟨_, _, toList_lines texts, isFragment⟩

theorem exists_isPage (isPage : (cutAround? (Flat.tag includeTag ++ ['\n'])
    ((texts.map String.toList).flatMap (· ++ ['\n']))).any fun page =>
      IsPage ((texts.map String.toList).flatMap (· ++ ['\n'])) page) :
    ∃ page, IsPage (Asset.lines texts).toList page := by
  rw [toList_lines]
  rcases (Option.any_eq_true _ _).mp isPage with ⟨page, _, isPage⟩
  exact ⟨page, of_decide_eq_true isPage⟩

end Texts

theorem basePage_isPage : ∃ page, IsPage Asset.basePage.toList page :=
  exists_isPage (by decide +kernel)

theorem malware_isFragment : ∃ lines flat,
    Asset.malware.toList = lines.flatMap (· ++ ['\n']) ∧ IsFragment lines flat :=
  exists_isFragment (by decide +kernel)

theorem unwantedSoftware_isFragment : ∃ lines flat,
    Asset.unwantedSoftware.toList = lines.flatMap (· ++ ['\n']) ∧ IsFragment lines flat :=
  exists_isFragment (by decide +kernel)

theorem socialEngineering_isFragment : ∃ lines flat,
    Asset.socialEngineering.toList = lines.flatMap (· ++ ['\n']) ∧ IsFragment lines flat :=
  exists_isFragment (by decide +kernel)

theorem store_base : Asset.embeddedStore base = .ok (Utf8.encode Asset.basePage) :=
  rfl

/-- Every fragment that a threat has is embedded. -/
theorem exists_fragment {threat : Threat} {path : String}
    (registered : threat.fragment? = some path) :
    ∃ text, Asset.embeddedStore path = .ok (Utf8.encode text) ∧
      ∃ lines flat, text.toList = lines.flatMap (· ++ ['\n']) ∧ IsFragment lines flat := by
  cases threat with
  | unspecified => cases registered
  | malware =>
      cases registered
      exact ⟨Asset.malware, rfl, malware_isFragment⟩
  | socialEngineering | socialEngineeringExtendedCoverage =>
      cases registered
      exact ⟨Asset.socialEngineering, rfl, socialEngineering_isFragment⟩
  | unwantedSoftware =>
      cases registered
      exact ⟨Asset.unwantedSoftware, rfl, unwantedSoftware_isFragment⟩

end LinkGuard.Page
