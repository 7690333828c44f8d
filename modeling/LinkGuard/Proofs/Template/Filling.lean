import LinkGuard.Proofs.Template.Flat
import LinkGuard.Template.Render

/-!
# Filling in flat templates

A flat template is filled in by putting the text of each value where its name stands. A fragment
that is included on a line of its own is filled in the same way, and its lines are indented as that
line is. Values without line ends have no part in the indentation.
-/

namespace LinkGuard.Template

variable {indentation text front rest : List Char}

/-- The text has no line ends. -/
def IsStill (text : List Char) : Prop :=
  ∀ character ∈ text, character ≠ '\n' ∧ character ≠ '\r'

instance : Decidable (IsStill text) :=
  List.decidableBAll (fun character : Char => character ≠ '\n' ∧ character ≠ '\r') text

theorem IsStill.endsLine_eq (still : IsStill text) : endsLine text = false := by
  have last : ∀ character, text.getLast? = some character → character ≠ '\n' ∧ character ≠ '\r' :=
    fun character last_eq => still character (List.mem_of_getLast? last_eq)
  simp only [endsLine, decide_eq_false_iff_not]
  grind

theorem indentLines_cons {character : Char} (filled : rest ≠ []) :
    indentLines indentation (character :: rest) =
      if character = '\n' then character :: indentation ++ indentLines indentation rest
      else character :: indentLines indentation rest := by
  cases rest with
  | nil => exact absurd rfl filled
  | cons next rest => rfl

theorem indent_cons (filled : text ≠ []) (others : List (List Char)) :
    indent indentation false (text :: others) =
      indentLines indentation text ++ indent indentation (endsLine text) others := by
  cases text with
  | nil => exact absurd rfl filled
  | cons => simp [indent]

theorem indentLines_append (inLine : endsLine front = false) (rest : List Char) :
    indentLines indentation (front ++ rest) =
      indentLines indentation front ++ indentLines indentation rest := by
  by_cases filled : rest = []
  · simp [filled, indentLines]
  induction front with
  | nil => rfl
  | cons character front ih =>
      cases front with
      | nil =>
          have own : character ≠ '\n' := by
            rintro rfl
            cases inLine
          rw [List.cons_append, List.nil_append, indentLines_cons filled, if_neg own]
          rfl
      | cons next front =>
          have others : endsLine (next :: front) = false := by
            simpa [endsLine] using inLine
          rw [List.cons_append, indentLines_cons (by simp), indentLines_cons (by simp), ih others]
          split <;> simp

theorem indentLines_of_isStill (still : IsStill text) : indentLines indentation text = text := by
  induction text with
  | nil => rfl
  | cons character text ih =>
      have own := (still character List.mem_cons_self).1
      by_cases filled : text = []
      · rw [filled]
        rfl
      · rw [indentLines_cons filled, if_neg own,
          ih fun other mem => still other (List.mem_cons_of_mem _ mem)]

theorem isPlain_indentLines (blanks : IsPlain indentation) (plain : IsPlain text) :
    IsPlain (indentLines indentation text) := by
  induction text with
  | nil => exact plain
  | cons character text ih =>
      have own := plain character List.mem_cons_self
      have others := ih fun other mem => plain other (List.mem_cons_of_mem _ mem)
      by_cases filled : text = []
      · rw [filled]
        exact List.forall_mem_cons.mpr ⟨own, by simp⟩
      · rw [indentLines_cons filled]
        split
        · exact List.forall_mem_append.mpr ⟨List.forall_mem_cons.mpr ⟨own, blanks⟩, others⟩
        · exact List.forall_mem_cons.mpr ⟨own, others⟩

namespace Flat

/-- No name stands at the beginning of a line. -/
def InLine (flat : Flat) : Prop :=
  ∀ part ∈ flat.parts, endsLine part.1 = false

/-- The template with its lines indented. -/
def indented (indentation : List Char) (flat : Flat) : Flat where
  parts := flat.parts.map fun part => (indentLines indentation part.1, part.2)
  last := indentLines indentation flat.last

/-- The texts that the template is filled in with up to the last name. -/
def partTexts (value : List Char → List Char) (flat : Flat) : List (List Char) :=
  flat.parts.flatMap fun part => [part.1, value part.2]

/-- The texts that the template is filled in with. -/
def texts (value : List Char → List Char) (flat : Flat) : List (List Char) :=
  flat.partTexts value ++ [flat.last]

variable {flat : Flat} {value : List Char → List Char}

instance : Decidable flat.InLine :=
  List.decidableBAll (fun part : List Char × List Char => endsLine part.1 = false) flat.parts

theorem texts_cons (value : List Char → List Char) (part : List Char × List Char)
    (parts : List (List Char × List Char)) (last : List Char) :
    texts value ⟨part :: parts, last⟩ = part.1 :: value part.2 :: texts value ⟨parts, last⟩ :=
  rfl

theorem flatten_texts (value : List Char → List Char) (flat : Flat) :
    (flat.texts value).flatten = flat.render value := by
  rcases flat with ⟨parts, last⟩
  induction parts with
  | nil => simp [texts, partTexts, render]
  | cons part parts ih => simp [texts_cons, ih]

theorem render_indented_cons (value : List Char → List Char) (part : List Char × List Char)
    (parts : List (List Char × List Char)) (last : List Char) :
    (indented indentation ⟨part :: parts, last⟩).render value =
      indentLines indentation part.1 ++
        (value part.2 ++ (indented indentation ⟨parts, last⟩).render value) :=
  render_cons ..

/-- Lines are indented the same whatever stands for the names. -/
theorem render_indented (inLine : flat.InLine)
    (still : ∀ part ∈ flat.parts, IsStill (value part.2)) :
    (flat.indented indentation).render value = indentLines indentation (flat.render value) := by
  rcases flat with ⟨parts, last⟩
  induction parts with
  | nil => simp [indented, render]
  | cons part parts ih =>
      have own := still part List.mem_cons_self
      have others := ih (fun other mem => inLine other (List.mem_cons_of_mem _ mem))
        fun other mem => still other (List.mem_cons_of_mem _ mem)
      rw [render_cons, indentLines_append (inLine part List.mem_cons_self),
        indentLines_append own.endsLine_eq, indentLines_of_isStill own, ← others,
        render_indented_cons]

theorem indent_texts (sound : flat.Sound) (inLine : flat.InLine)
    (still : ∀ part ∈ flat.parts, IsStill (value part.2)) :
    indent indentation false (flat.texts value) = (flat.indented indentation).render value := by
  rcases flat with ⟨parts, last⟩
  induction parts with
  | nil =>
      rw [texts, partTexts, List.flatMap_nil, List.nil_append, indent_cons sound.lastFilled]
      simp [indented, render, indent]
  | cons part parts ih =>
      have own := still _ List.mem_cons_self
      have others := ih sound.tail (fun other mem => inLine other (List.mem_cons_of_mem _ mem))
        fun other mem => still other (List.mem_cons_of_mem _ mem)
      rw [texts_cons, indent_cons (sound.filled _ List.mem_cons_self),
        inLine _ List.mem_cons_self, render_indented_cons, ← others]
      by_cases filled : value part.2 = []
      · simp [filled, indent]
      · rw [indent_cons filled, own.endsLine_eq, indentLines_of_isStill own]

end Flat

section Filling

variable {inclusion : Inclusion} {scopes : Scopes} {before behind : List Node}
  {flat fragment : Flat} {page : Surround} {value : List Char → List Char} {name : String}

theorem fillAll_append {first second : List String}
    (first_eq : fillAll inclusion scopes before = some first)
    (second_eq : fillAll inclusion scopes behind = some second) :
    fillAll inclusion scopes (before ++ behind) = some (first ++ second) := by
  induction before generalizing first with
  | nil =>
      cases first_eq
      exact second_eq
  | cons node before ih =>
      simp only [fillAll, Option.bind_eq_bind, Option.bind_eq_some_iff, Option.pure_def,
        Option.some.injEq] at first_eq
      rcases first_eq with ⟨own, own_eq, others, others_eq, rfl⟩
      rw [List.cons_append, fillAll, own_eq, ih others_eq]
      simp

theorem join_ofList (texts : List (List Char)) :
    String.join (texts.map String.ofList) = String.ofList texts.flatten := by
  apply String.toList_injective
  induction texts with
  | nil => simp
  | cons text texts ih => simp_all

namespace Flat

/-- In these scopes the names of the template show these texts. -/
def Shows (value : List Char → List Char) (scopes : Scopes) (flat : Flat) : Prop :=
  ∀ part ∈ flat.parts, ∀ inclusion, fillNode inclusion scopes
    (.value { names := [String.ofList part.2] } true) = some [String.ofList (value part.2)]

theorem fillAll_partNodes (shows' : flat.Shows value scopes) :
    fillAll inclusion scopes flat.partNodes = some ((flat.partTexts value).map String.ofList) := by
  rcases flat with ⟨parts, last⟩
  induction parts with
  | nil => rfl
  | cons part parts ih =>
      have own := shows' part List.mem_cons_self inclusion
      have others := ih fun other mem => shows' other (List.mem_cons_of_mem _ mem)
      simp only [partNodes, partTexts, List.flatMap_cons, List.map_append] at others ⊢
      refine fillAll_append ?_ others
      rw [fillAll, fillAll, own]
      rfl

theorem fillAll_nodes (shows' : flat.Shows value scopes) :
    fillAll inclusion scopes flat.nodes = some ((flat.texts value).map String.ofList) := by
  rw [texts, List.map_append]
  exact fillAll_append (fillAll_partNodes shows') rfl

end Flat

theorem ofFragment_nothing (scopes : Scopes) : scopes.ofFragment ⟨[], []⟩ = scopes := by
  rfl

theorem fillNode_fragment (sound : fragment.Sound) (inLine : fragment.InLine)
    (still : ∀ part ∈ fragment.parts, IsStill (value part.2)) (filled : indentation ≠ [])
    (shows' : fragment.Shows value scopes) :
    fillNode (includeFragment [(name, fragment.nodes)]) scopes
        (.fragment (.text name) {} (String.ofList indentation) none) =
      some [String.ofList ((fragment.indented indentation).render value)] := by
  have texts_eq : fillAll (includeStandIn none) scopes fragment.nodes =
      some ((fragment.texts value).map String.ofList) :=
    Flat.fillAll_nodes shows'
  have indented_eq : indent indentation false (fragment.texts value) = _ :=
    Flat.indent_texts sound inLine still
  simp only [fillNode, Scopes.argument?, Scopes.inputs?, Scopes.plainInputs?, Scopes.namedInputs?]
  simp [includeFragment, Value.shown, ofFragment_nothing, texts_eq, filled, indented_eq]

namespace Surround

/-- The text of the page with the fragment in place of its tag, once something stands for each name.
-/
def render (value : List Char → List Char) (fragment : Flat) (page : Surround) : List Char :=
  page.front.render value ++ (page.indentation ++
    ((fragment.indented page.indentation).render value ++ page.back.render value))

/-- A page is filled in with the fragment on the line of its tag. -/
theorem fill_nodes {data : Value} (sound : page.Sound) (fragmentSound : fragment.Sound)
    (inLine : fragment.InLine) (still : ∀ part ∈ fragment.parts, IsStill (value part.2))
    (front : page.front.Shows value (.ofRoot data)) (back : page.back.Shows value (.ofRoot data))
    (inside : fragment.Shows value (.ofRoot data)) :
    fill [(name, fragment.nodes)] data (page.nodes name) =
      some (String.ofList (page.render value fragment)) := by
  have fragment_eq : fillNode (includeFragment [(name, fragment.nodes)]) (.ofRoot data) _ = _ :=
    fillNode_fragment fragmentSound inLine still sound.filled inside
  have behind_eq : fillAll (includeFragment [(name, fragment.nodes)]) (.ofRoot data) _ = _ :=
    Flat.fillAll_nodes back
  have filled : fillAll (includeFragment [(name, fragment.nodes)]) (.ofRoot data)
      (page.nodes name) = some ((page.front.partTexts value ++
        ((page.front.last ++ page.indentation) ::
          (fragment.indented page.indentation).render value :: page.back.texts value)).map
            String.ofList) := by
    rw [nodes, List.map_append]
    apply fillAll_append (Flat.fillAll_partNodes front)
    rw [fillAll, fillAll, fragment_eq, behind_eq]
    rfl
  have front_eq : page.front.render value =
      (page.front.partTexts value).flatten ++ page.front.last := by
    rw [← Flat.flatten_texts, Flat.texts]
    simp
  rw [fill, filled, Option.map_some, join_ofList]
  simp only [List.flatten_append, List.flatten_cons, Flat.flatten_texts, render, front_eq,
    List.append_assoc]

end Surround

end Filling

end LinkGuard.Template
