import LinkGuard.Page
import LinkGuard.Proofs.Template.Escaping
import LinkGuard.Proofs.Template.Filling
import LinkGuard.Proofs.Url.Host

/-!
# Slots of warning pages

A warning page shows four values: the title of the threat, its name, the link and its host. A page
fills a template if it is the same text but for the slots, and each slot holds a text that displays
the value. No value adds a character that could end a text or an attribute.
-/

namespace LinkGuard.Page

open Template

/-- A value that a page shows. -/
inductive Slot where
  | name
  | threatType
  | url
  | host
  deriving DecidableEq, Repr

namespace Slot

/-- The name of the value in templates. -/
def label : Slot → List Char
  | name => ['n', 'a', 'm', 'e']
  | threatType => ['t', 'h', 'r', 'e', 'a', 't', 'T', 'y', 'p', 'e']
  | url => ['u', 'r', 'l']
  | host => ['h', 'o', 's', 't']

/-- The value for a threat and a link. -/
def value (threat : Threat) (target : Url) : Slot → String
  | name => threat.title
  | threatType => threat.apiName
  | url => target.href
  | host => target.host.getD ""

/-- All slots. -/
def all : List Slot :=
  [name, threatType, url, host]

/-- The slot with a name in templates. -/
def ofLabel? (label : List Char) : Option Slot :=
  all.find? fun slot => slot.label = label

@[simp]
theorem ofLabel?_label (slot : Slot) : ofLabel? slot.label = some slot := by
  cases slot <;> rfl

theorem isName_label (slot : Slot) : IsName slot.label := by
  cases slot <;> exact ⟨⟨by decide, by decide⟩, rfl⟩

end Slot

/-- The page is the template with text that displays the value in each slot; all else is copied. -/
inductive Filled (threat : Threat) (target : Url) : List Char → List Char → Prop where
  | nil : Filled threat target [] []
  | copied {character : Char} {template page : List Char} (plain : character ≠ '{')
      (rest : Filled threat target template page) :
      Filled threat target (character :: template) (character :: page)
  | shown (slot : Slot) {template text page : List Char}
      (displays : displayed? text = some (slot.value threat target).toList)
      (rest : Filled threat target template page) :
      Filled threat target ('{' :: '{' :: (slot.label ++ '}' :: '}' :: template)) (text ++ page)

section Marks

variable {threat : Threat} {target : Url} {template page others more : List Char}

theorem Filled.append (first : Filled threat target template page)
    (second : Filled threat target others more) :
    Filled threat target (template ++ others) (page ++ more) := by
  induction first with
  | nil => exact second
  | copied plain _ ih => exact .copied plain ih
  | shown slot displays _ ih =>
      rw [List.append_assoc]
      simpa using Filled.shown slot displays ih

theorem Filled.of_isPlain (plain : IsPlain template) : Filled threat target template template := by
  induction template with
  | nil => exact .nil
  | cons character template ih =>
      have own := plain character List.mem_cons_self
      refine .copied ?_ (ih fun other mem => plain other (List.mem_cons_of_mem _ mem))
      rintro rfl
      simp at own

theorem not_mem_label {mark : Char} (isMark : mark ∈ ['<', '>', '\x22']) (slot : Slot) :
    mark ∉ slot.label := by
  simp only [List.mem_cons, List.not_mem_nil, or_false] at isMark
  rcases isMark with rfl | rfl | rfl
  all_goals cases slot <;> decide

/-- No value adds an angle bracket or a quote. -/
theorem Filled.count_eq {mark : Char} (isMark : mark ∈ ['<', '>', '\x22'])
    (filled : Filled threat target template page) : page.count mark = template.count mark := by
  have brace : mark ≠ '{' ∧ mark ≠ '}' := by
    constructor <;> (rintro rfl; simp at isMark)
  induction filled with
  | nil => rfl
  | copied _ _ ih => rw [List.count_cons, List.count_cons, ih]
  | shown slot displays _ ih =>
      have value_count := List.count_eq_zero.mpr (not_mem_of_displayed? isMark displays)
      have label_count := List.count_eq_zero.mpr (not_mem_label isMark slot)
      simp [value_count, label_count, brace.1.symm, brace.2.symm, ih]

end Marks

section Values

variable {threat : Threat} {target : Url} {flat : Flat}

/-- What the templates show for a name. -/
def shown (threat : Threat) (target : Url) (label : List Char) : List Char :=
  ((Slot.ofLabel? label).map fun slot => (escape (slot.value threat target)).toList).getD []

/-- The template shows nothing but slots. -/
def HasSlots (flat : Flat) : Prop :=
  ∀ part ∈ flat.parts, ∃ slot ∈ Slot.all, slot.label = part.2

theorem shown_label (slot : Slot) :
    shown threat target slot.label = (escape (slot.value threat target)).toList := by
  simp [shown]

theorem fillNode_slot (slot : Slot) (inclusion : Inclusion) :
    fillNode inclusion (.ofRoot (data threat target))
        (.value { names := [String.ofList slot.label] } true) =
      some [escape (slot.value threat target)] := by
  cases slot <;> rfl

theorem shows_of_hasSlots (slots : HasSlots flat) :
    flat.Shows (shown threat target) (.ofRoot (data threat target)) := by
  intro part mem inclusion
  rcases slots part mem with ⟨slot, _, label_eq⟩
  rw [← label_eq, fillNode_slot, shown_label, String.ofList_toList]

theorem filled_of_hasSlots (slots : HasSlots flat) (plain : ∀ part ∈ flat.parts, IsPlain part.1)
    (lastPlain : IsPlain flat.last) :
    Filled threat target flat.written (flat.render (shown threat target)) := by
  rcases flat with ⟨parts, last⟩
  induction parts with
  | nil => exact .of_isPlain lastPlain
  | cons part parts ih =>
      rcases part with ⟨text, name⟩
      have others := ih (fun other mem => slots other (List.mem_cons_of_mem _ mem))
        (fun other mem => plain other (List.mem_cons_of_mem _ mem)) lastPlain
      rcases slots _ List.mem_cons_self with ⟨slot, _, rfl⟩
      rw [Flat.written, Flat.render_cons, Flat.render_cons, shown_label]
      refine .append (.of_isPlain (plain _ List.mem_cons_self)) ?_
      simpa [Flat.tag, Flat.written] using Filled.shown slot (displayed?_escape _) others

theorem isStill_of_isPrintable {text : List Char} (printable : IsPrintable text) :
    IsStill text := by
  intro character mem
  have visible := printable character mem
  constructor <;> (rintro rfl; exact absurd visible (by decide))

theorem isStill_escape {text : String} (still : IsStill text.toList) :
    IsStill (escape text).toList := by
  intro character mem
  rw [escape, String.toList_ofList, List.mem_flatMap] at mem
  rcases mem with ⟨source, source_mem, mem⟩
  unfold escapeChar at mem
  split at mem
  case h_8 =>
    rw [List.mem_singleton.mp mem]
    exact still source source_mem
  all_goals
    constructor <;> (rintro rfl; exact absurd mem (by decide))

/-- A title, a name and the host of a link that was read have no line ends. -/
theorem isStill_value (printable : target.HasPrintableHost) {slot : Slot} (notUrl : slot ≠ .url) :
    IsStill (slot.value threat target).toList := by
  cases slot with
  | name =>
      change IsStill threat.title.toList
      cases threat <;> decide
  | threatType =>
      change IsStill threat.apiName.toList
      cases threat <;> decide
  | url => exact absurd rfl notUrl
  | host =>
      rw [Slot.value]
      rcases host_eq : target.host with _ | host
      · intro character mem
        cases mem
      · exact isStill_of_isPrintable (printable host host_eq)

end Values

end LinkGuard.Page
