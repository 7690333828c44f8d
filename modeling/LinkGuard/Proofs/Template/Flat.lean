import LinkGuard.Template.Read

/-!
# Flat templates

A flat template is text in which some values are shown by their names, with no blocks and no other
tags. It is read as it is written: each text becomes a text, and each name the value with this name.

A page that includes one fragment on a line of its own is flat before that line and behind it.
-/

namespace LinkGuard.Template

/-- Characters that mean nothing to a template. -/
def IsPlain (text : List Char) : Prop :=
  ∀ character ∈ text, character ∉ ['{', '}', '\\']

/-- Characters that mean nothing to a tag. -/
def IsSimple (text : List Char) : Prop :=
  ∀ character ∈ text, character ∉ ['{', '}', '!', '\x22', '\x27']

/-- The inside of a tag without braces, quotes and comments. -/
structure IsInner (inside : List Char) : Prop where
  filled : inside ≠ []
  simple : IsSimple inside

section Scanning

variable {character next : Char} {read text inside rest last : List Char} {tag : Tag}

instance : Decidable (IsPlain text) :=
  List.decidableBAll (fun character : Char => character ∉ ['{', '}', '\\']) text

instance : Decidable (IsSimple text) :=
  List.decidableBAll (fun character : Char => character ∉ ['{', '}', '!', '\x22', '\x27']) text

theorem scan_text_cons (plain : character ≠ '{') :
    scan (.text read) (character :: rest) = scan (.text (character :: read)) rest := by
  rw [scan]
  · intro rest opening
    cases opening
    contradiction
  · intro rest opening
    cases opening
    contradiction

theorem scan_text_opening (unguardedRead : read.head? ≠ some '\\') (inner : next ≠ '{') :
    scan (.text read) ('{' :: '{' :: next :: rest) = scan (.tag read []) (next :: rest) := by
  have same : unguarded read = (read, true) := by
    unfold unguarded
    split <;> simp_all
  rw [scan, same]
  intro rest opening
  cases opening
  contradiction

theorem scan_tag_cons (closes : character ≠ '}') (comment : character ≠ '!')
    (quote : character ≠ '\x22') (apostrophe : character ≠ '\x27') :
    scan (.tag text read) (character :: rest) = scan (.tag text (character :: read)) rest := by
  rw [scan]
  · simp [comment, quote, apostrophe]
  · intro rest closing
    cases closing
    contradiction
  · intro rest closing
    cases closing
    contradiction

theorem scan_tag_closing (single : rest.head? ≠ some '}')
    (read_eq : Tag.read? read.reverse = some tag) :
    scan (.tag text read) ('}' :: '}' :: rest) =
      (scan (.text []) rest).map fun pieces => pieces.add text.reverse tag := by
  rw [scan, read_eq]
  · cases scan (.text []) rest <;> rfl
  · intro rest closing
    simp_all

theorem scan_text_append (plain : IsPlain text) :
    scan (.text read) (text ++ rest) = scan (.text (text.reverse ++ read)) rest := by
  induction text generalizing read with
  | nil => rfl
  | cons character text ih =>
      have own := plain character List.mem_cons_self
      rw [List.cons_append, scan_text_cons (by grind),
        ih fun other mem => plain other (List.mem_cons_of_mem _ mem)]
      simp

theorem scan_text (plain : IsPlain text) : scan (.text []) text = some ⟨[], text⟩ := by
  have whole : scan (.text []) (text ++ []) = scan (.text (text.reverse ++ [])) [] :=
    scan_text_append plain
  rw [List.append_nil, List.append_nil] at whole
  rw [whole, scan, List.reverse_reverse]

theorem scan_tag_append (simple : IsSimple inside) :
    scan (.tag text read) (inside ++ rest) = scan (.tag text (inside.reverse ++ read)) rest := by
  induction inside generalizing read with
  | nil => rfl
  | cons character inside ih =>
      have own := simple character List.mem_cons_self
      simp only [List.mem_cons, List.not_mem_nil, or_false, not_or] at own
      rw [List.cons_append, scan_tag_cons own.2.1 own.2.2.1 own.2.2.2.1 own.2.2.2.2,
        ih fun other mem => simple other (List.mem_cons_of_mem _ mem)]
      simp

/-- A tag between a plain text and whatever does not begin with a third brace. -/
theorem scan_part (plain : IsPlain text) (inner : IsInner inside)
    (read_eq : Tag.read? inside = some tag) (single : rest.head? ≠ some '}') :
    scan (.text []) (text ++ '{' :: '{' :: (inside ++ '}' :: '}' :: rest)) =
      (scan (.text []) rest).map fun pieces => pieces.add text tag := by
  have unguardedRead : text.reverse.head? ≠ some '\\' := by
    intro guarded
    have mem := List.mem_reverse.mp (List.mem_of_head? guarded)
    exact absurd (plain _ mem) (by decide)
  rw [scan_text_append plain, List.append_nil]
  cases inside with
  | nil => exact absurd rfl inner.filled
  | cons next inside =>
      have own := inner.simple next List.mem_cons_self
      rw [List.cons_append, scan_text_opening unguardedRead (by grind), ← List.cons_append,
        scan_tag_append inner.simple, List.append_nil, scan_tag_closing single, List.reverse_reverse]
      rwa [List.reverse_reverse]

end Scanning

/-- The tag that shows the value with a name. -/
def Tag.shows (name : List Char) : Tag :=
  ⟨.value { names := [String.ofList name] } true, false, false⟩

/-- A name that is read as itself. -/
structure IsName (name : List Char) : Prop where
  inner : IsInner name
  read_eq : Tag.read? name = some (.shows name)

/-- A draft with nothing open and nothing to eat. -/
def Draft.holding (nodes : List Node) : Draft :=
  { nodes }

/-- A draft behind a tag that has its line for itself. -/
def Draft.eating (nodes : List Node) : Draft :=
  { nodes, eatsLine := true }

/-- Texts and names: each name with the text before it, and the text at the end. -/
structure Flat where
  parts : List (List Char × List Char)
  last : List Char

namespace Flat

variable {flat : Flat}

/-- The text that the template becomes once something stands for each name. -/
def render (value : List Char → List Char) (flat : Flat) : List Char :=
  (flat.parts.flatMap fun part => part.1 ++ value part.2) ++ flat.last

/-- A name in double braces. -/
def tag (name : List Char) : List Char :=
  '{' :: '{' :: (name ++ ['}', '}'])

/-- The text of the template. -/
def written (flat : Flat) : List Char :=
  flat.render tag

/-- What is read up to the last name. -/
def partNodes (flat : Flat) : List Node :=
  flat.parts.flatMap fun part =>
    [.text (String.ofList part.1), .value { names := [String.ofList part.2] } true]

/-- What the template is read as. -/
def nodes (flat : Flat) : List Node :=
  flat.partNodes ++ [.text (String.ofList flat.last)]

/-- The pieces into which the template is cut. -/
def tags (flat : Flat) : List (List Char × Tag) :=
  flat.parts.map fun part => (part.1, .shows part.2)

/-- All texts are plain and not empty, and all names are read as themselves. -/
structure Sound (flat : Flat) : Prop where
  filled : ∀ part ∈ flat.parts, part.1 ≠ []
  plain : ∀ part ∈ flat.parts, IsPlain part.1
  names : ∀ part ∈ flat.parts, IsName part.2
  lastFilled : flat.last ≠ []
  lastPlain : IsPlain flat.last

/-- Puts a character at the front. -/
def push (character : Char) : Flat → Flat
  | ⟨[], last⟩ => ⟨[], character :: last⟩
  | ⟨(text, name) :: parts, last⟩ => ⟨(character :: text, name) :: parts, last⟩

@[simp]
theorem render_cons (value : List Char → List Char) (part : List Char × List Char)
    (parts : List (List Char × List Char)) (last : List Char) :
    render value ⟨part :: parts, last⟩ = part.1 ++ (value part.2 ++ render value ⟨parts, last⟩) := by
  simp [render]

theorem render_push (value : List Char → List Char) (character : Char) (flat : Flat) :
    (flat.push character).render value = character :: flat.render value := by
  rcases flat with ⟨_ | ⟨part, parts⟩, last⟩ <;> rfl

namespace Sound

variable {part : List Char × List Char} {parts : List (List Char × List Char)} {last : List Char}

theorem tail (sound : Sound ⟨part :: parts, last⟩) : Sound ⟨parts, last⟩ where
  filled other mem := sound.filled other (List.mem_cons_of_mem _ mem)
  plain other mem := sound.plain other (List.mem_cons_of_mem _ mem)
  names other mem := sound.names other (List.mem_cons_of_mem _ mem)
  lastFilled := sound.lastFilled
  lastPlain := sound.lastPlain

theorem push {character : Char} (sound : flat.Sound) (plain : character ∉ ['{', '}', '\\']) :
    (flat.push character).Sound := by
  rcases flat with ⟨_ | ⟨part, parts⟩, last⟩
  · refine ⟨by simp [Flat.push], by simp [Flat.push], by simp [Flat.push],
      List.cons_ne_nil _ _, ?_⟩
    exact List.forall_mem_cons.mpr ⟨plain, sound.lastPlain⟩
  · have others := sound.tail
    refine ⟨?_, ?_, ?_, sound.lastFilled, sound.lastPlain⟩
    · exact List.forall_mem_cons.mpr ⟨List.cons_ne_nil _ _, others.filled⟩
    · refine List.forall_mem_cons.mpr ⟨?_, others.plain⟩
      exact List.forall_mem_cons.mpr ⟨plain, sound.plain part List.mem_cons_self⟩
    · exact List.forall_mem_cons.mpr ⟨sound.names part List.mem_cons_self, others.names⟩

end Sound

section Reading

variable {rest last : List Char} {nodes : List Node} {parts : List (List Char × List Char)}

/-- What follows two closing braces is no third one. -/
theorem head?_written_append (sound : flat.Sound) (rest : List Char) :
    (flat.written ++ rest).head? ≠ some '}' := by
  rcases flat with ⟨_ | ⟨⟨text, name⟩, parts⟩, last⟩
  · cases last with
    | nil => exact absurd rfl sound.lastFilled
    | cons first last =>
        have plain := sound.lastPlain first List.mem_cons_self
        simp only [written, render, List.flatMap_nil, List.nil_append, List.cons_append,
          List.head?_cons]
        grind
  · cases text with
    | nil => exact absurd rfl (sound.filled _ List.mem_cons_self)
    | cons first text =>
        have plain := sound.plain _ List.mem_cons_self first List.mem_cons_self
        simp only [written, render_cons, List.cons_append, List.head?_cons]
        grind

/-- A flat template is cut into its texts and names. -/
theorem scan_written (sound : flat.Sound) :
    scan (.text []) flat.written = some ⟨flat.tags, flat.last⟩ := by
  rcases flat with ⟨parts, last⟩
  induction parts with
  | nil => exact scan_text sound.lastPlain
  | cons part parts ih =>
      rcases part with ⟨text, name⟩
      have plain := sound.plain _ List.mem_cons_self
      have isName := sound.names _ List.mem_cons_self
      have rest_eq := ih sound.tail
      have whole : (Flat.mk ((text, name) :: parts) last).written =
          text ++ '{' :: '{' :: (name ++ '}' :: '}' :: (Flat.mk parts last).written) := by
        simp [written, tag]
      have single := head?_written_append sound.tail []
      rw [List.append_nil] at single
      rw [whole, scan_part plain isName.inner isName.read_eq single, rest_eq]
      rfl

/-- A flat template in front of a rest is cut off; its last text stays with the rest. -/
theorem scan_append {pieces : Pieces} (sound : flat.Sound)
    (rest_eq : scan (.text []) (flat.last ++ rest) = some pieces) :
    scan (.text []) (flat.written ++ rest) = some { pieces with tags := flat.tags ++ pieces.tags } := by
  rcases flat with ⟨parts, last⟩
  induction parts with
  | nil => exact rest_eq
  | cons part parts ih =>
      rcases part with ⟨text, name⟩
      have plain := sound.plain _ List.mem_cons_self
      have isName := sound.names _ List.mem_cons_self
      have others_eq := ih sound.tail rest_eq
      have whole : (Flat.mk ((text, name) :: parts) last).written ++ rest =
          text ++ '{' :: '{' :: (name ++ '}' :: '}' :: ((Flat.mk parts last).written ++ rest)) := by
        simp [written, tag]
      have single := head?_written_append sound.tail rest
      rw [whole, scan_part plain isName.inner isName.read_eq single, others_eq]
      rfl

theorem addText_holding {text : List Char} (filled : text ≠ []) (nodes : List Node) :
    (Draft.holding nodes).addText text = .holding (.text (String.ofList text) :: nodes) := by
  simp [Draft.addText, Draft.holding, filled]

theorem addPieces?_part {text name : List Char} {tags : List (List Char × Tag)}
    (filled : text ≠ []) (first : Bool) (nodes : List Node) :
    Draft.addPieces? last first (.holding nodes) ((text, .shows name) :: tags) =
      Draft.addPieces? last false (.holding (.value { names := [String.ofList name] } true ::
        (.text (String.ofList text) :: nodes))) tags := by
  rw [Draft.addPieces?, addText_holding filled]
  rfl

/-- Texts and names are added up to the last text. -/
theorem addPieces?_append (filled : ∀ part ∈ flat.parts, part.1 ≠ []) (first : Bool)
    (nodes : List Node) (tags : List (List Char × Tag)) :
    Draft.addPieces? last first (.holding nodes) (flat.tags ++ tags) =
      Draft.addPieces? last (first && flat.parts.isEmpty)
        (.holding (flat.partNodes.reverse ++ nodes)) tags := by
  rcases flat with ⟨parts, behind⟩
  induction parts generalizing first nodes with
  | nil => simp [Flat.tags, partNodes]
  | cons part parts ih =>
      have own := filled part List.mem_cons_self
      have tailFilled : ∀ other ∈ parts, other.1 ≠ [] :=
        fun other mem => filled other (List.mem_cons_of_mem _ mem)
      have others := fun nodes => ih false nodes tailFilled
      simp only [Flat.tags, List.map_cons, List.cons_append] at others ⊢
      rw [addPieces?_part own, others]
      simp [partNodes]

theorem addPieces?_tags (filled : ∀ part ∈ flat.parts, part.1 ≠ []) (lastFilled : flat.last ≠ [])
    (first : Bool) (nodes : List Node) :
    Draft.addPieces? flat.last first (.holding nodes) flat.tags =
      some (.holding (flat.nodes.reverse ++ nodes)) := by
  have whole : Draft.addPieces? flat.last first (.holding nodes) (flat.tags ++ []) = _ :=
    addPieces?_append filled first nodes []
  rw [List.append_nil] at whole
  rw [whole, Draft.addPieces?, addText_holding lastFilled]
  simp [Flat.nodes]

/-- Behind a tag that has its line for itself, the end of the line is eaten. -/
theorem addPieces?_push (filled : ∀ part ∈ flat.parts, part.1 ≠ []) (lastFilled : flat.last ≠ [])
    (nodes : List Node) :
    Draft.addPieces? (flat.push '\n').last false (.eating nodes) (flat.push '\n').tags =
      some (.holding (flat.nodes.reverse ++ nodes)) := by
  have eaten (text : List Char) : (Draft.eating nodes).addText ('\n' :: text) =
      .holding (.text (String.ofList text) :: nodes) := by
    simp [Draft.addText, Draft.eating, Draft.holding, dropLine, isIndent]
  rw [← addPieces?_tags filled lastFilled false nodes]
  rcases flat with ⟨_ | ⟨⟨text, name⟩, parts⟩, last⟩
  · simp only [push, Flat.tags, List.map_nil, Draft.addPieces?, eaten, addText_holding lastFilled]
  · have own := filled _ List.mem_cons_self
    simp only [push, Flat.tags, List.map_cons, Draft.addPieces?, eaten, addText_holding own]
    rfl

/-- A flat template is read as it is written. -/
theorem read?_written (sound : flat.Sound) :
    read? (String.ofList flat.written) = some flat.nodes := by
  have added := addPieces?_tags sound.filled sound.lastFilled true []
  rw [read?, String.toList_ofList, scan_written sound]
  simp only [Option.bind_eq_bind, Option.bind_some]
  rw [← Draft.holding, added]
  simp [Draft.holding]

end Reading

end Flat

/-- The inside of a tag that includes a fragment by its name. -/
structure Includes (inside : List Char) (name : String) : Prop where
  inner : IsInner inside
  read_eq : Tag.read? inside = some ⟨.fragment (.text name) {}, false, false⟩

/-- A page that includes a fragment on an indented line of its own. -/
structure Surround where
  front : Flat
  indentation : List Char
  back : Flat

namespace Surround

/-- The text of the page, with this inside of the tag. -/
def written (inside : List Char) (page : Surround) : List Char :=
  page.front.written ++ (page.indentation ++ (Flat.tag inside ++ '\n' :: page.back.written))

/-- What the page is read as. The indentation stays in front of the fragment, and the fragment is
told of it. -/
def nodes (name : String) (page : Surround) : List Node :=
  page.front.partNodes ++
    (.text (String.ofList (page.front.last ++ page.indentation)) ::
      .fragment (.text name) {} (String.ofList page.indentation) none :: page.back.nodes)

/-- The page is flat around a line that has nothing but blanks and the tag. -/
structure Sound (page : Surround) : Prop where
  front : page.front.Sound
  back : page.back.Sound
  opensLine : page.front.last.getLast? = some '\n'
  filled : page.indentation ≠ []
  blank : ∀ character ∈ page.indentation, character = ' '

variable {page : Surround} {inside : List Char} {name : String} {nodes : List Node} {tag : Tag}

theorem Sound.plainBefore (sound : page.Sound) : IsPlain (page.front.last ++ page.indentation) := by
  intro character mem
  rcases List.mem_append.mp mem with mem | mem
  · exact sound.front.lastPlain character mem
  · rw [sound.blank character mem]
    decide

theorem scan_written (sound : page.Sound) (inner : IsInner inside)
    (read_eq : Tag.read? inside = some tag) :
    scan (.text []) (page.written inside) =
      some ⟨page.front.tags ++ (page.front.last ++ page.indentation, tag) ::
        (page.back.push '\n').tags, (page.back.push '\n').last⟩ := by
  have behind := sound.back.push (by decide : '\n' ∉ ['{', '}', '\\'])
  have single := Flat.head?_written_append behind []
  rw [List.append_nil] at single
  have whole : page.front.last ++ (page.indentation ++ (Flat.tag inside ++
      '\n' :: page.back.written)) = (page.front.last ++ page.indentation) ++
        '{' :: '{' :: (inside ++ '}' :: '}' :: (page.back.push '\n').written) := by
    simp [Flat.tag, Flat.written, Flat.render_push]
  have rest_eq := scan_part sound.plainBefore inner read_eq single
  rw [← whole, Flat.scan_written behind] at rest_eq
  exact Flat.scan_append sound.front rest_eq

/-- The tag stands on a line of its own, indented by the blanks in front of it. -/
theorem between_eq (sound : page.Sound) (first last : Bool) (behind : List Char) :
    Setting.between first last (page.front.last ++ page.indentation) ('\n' :: behind) =
      ⟨true, true, false, page.indentation⟩ := by
  have blank : ∀ character ∈ page.indentation.reverse, isIndent character = true := by
    intro character mem
    rw [sound.blank character (List.mem_reverse.mp mem)]
    rfl
  rcases List.getLast?_eq_some_iff.mp sound.opensLine with ⟨before, front_eq⟩
  have ends : isIndent '\n' = false := rfl
  have dropped : dropIndentEnd (page.front.last ++ page.indentation) = page.front.last := by
    rw [dropIndentEnd, List.reverse_append, List.dropWhile_append_of_pos blank, front_eq]
    simp [ends]
  have taken : indentEnd (page.front.last ++ page.indentation) = page.indentation := by
    rw [indentEnd, List.reverse_append, List.takeWhile_append_of_pos blank, front_eq]
    simp [ends]
  simp [Setting.between, dropped, taken, sound.opensLine, ends, isLineEnd]

theorem addTag?_fragment (nodes : List Node) (name : String) (indentation : List Char) :
    (Draft.holding nodes).addTag? ⟨true, true, false, indentation⟩
        ⟨.fragment (.text name) {}, false, false⟩ =
      some (.eating (.fragment (.text name) {} (String.ofList indentation) none :: nodes)) :=
  rfl

/-- A page around one fragment is read as it is written. -/
theorem read?_written (sound : page.Sound) (includes : Includes inside name) :
    read? (String.ofList (page.written inside)) = some (page.nodes name) := by
  have behind_eq : ∃ behind, (((page.back.push '\n').tags.head?.map Prod.fst).getD
      (page.back.push '\n').last) = '\n' :: behind := by
    rcases page.back with ⟨_ | ⟨part, parts⟩, last⟩ <;> exact ⟨_, rfl⟩
  rcases behind_eq with ⟨behind, behind_eq⟩
  have filled : page.front.last ++ page.indentation ≠ [] := by
    simp [sound.filled]
  rw [read?, String.toList_ofList, scan_written sound includes.inner includes.read_eq]
  simp only [Option.bind_eq_bind, Option.bind_some]
  rw [← Draft.holding, Flat.addPieces?_append sound.front.filled, Draft.addPieces?,
    Flat.addText_holding filled, behind_eq, between_eq sound]
  simp only [Option.bind_eq_bind, addTag?_fragment, Option.bind_some]
  rw [Flat.addPieces?_push sound.back.filled sound.back.lastFilled]
  simp [Draft.holding, nodes]

end Surround

end LinkGuard.Template
