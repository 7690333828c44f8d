import LinkGuard.Proofs.Outcome
import LinkGuard.Proofs.Page.Embedded
import LinkGuard.Proofs.Text.Utf8

/-!
# Warning pages cannot be injected into

A warning page is the text of the base page with the lines of a fragment on the line that includes
it, and with texts that display the values in its slots. Whatever the link is, nothing else of the
text has changed: no link adds a tag or ends an attribute, and a link with braces is not read as a
template.
-/

namespace LinkGuard.Page

open Template

/-- The text is a page with the lines of a fragment, indented like the line of the tag that includes
it, in place of that line. -/
def Composes (base fragment composed : List Char) : Prop :=
  ∃ (before indentation behind : List Char) (lines : List (List Char)),
    base = before ++ indentation ++ "\x7b\x7b> threat\x7d\x7d\n".toList ++ behind ∧
    before.getLast? = some '\n' ∧ (∀ character ∈ indentation, character = ' ') ∧
    fragment = lines.flatMap (· ++ ['\n']) ∧ (∀ line ∈ lines, '\n' ∉ line) ∧
    composed = before ++ lines.flatMap (indentation ++ · ++ ['\n']) ++ behind

section Warning

variable {threat : Threat} {target : Url} {path text : String} {lines : List (List Char)}
  {flat : Flat} {page : Surround}

theorem isStill_tag {part : List Char × List Char} (isFragment : IsFragment lines flat)
    (mem : part ∈ flat.parts) : IsStill (Flat.tag part.2) := by
  rcases isFragment.isCut.slots part mem with ⟨slot, _, label_eq⟩
  rw [← label_eq]
  cases slot <;> decide

theorem composes (isPage : IsPage Asset.basePage.toList page)
    (text_eq : text.toList = lines.flatMap (· ++ ['\n'])) (isFragment : IsFragment lines flat) :
    Composes Asset.basePage.toList text.toList (page.render Flat.tag flat) := by
  have indented : (flat.indented page.indentation).render Flat.tag = _ :=
    Flat.render_indented isFragment.inLine fun part mem => isStill_tag isFragment mem
  refine ⟨page.front.written, page.indentation, page.back.written, lines, ?_, ?_, isPage.blank,
    text_eq, ?_, ?_⟩
  · rw [← isPage.written]
    simp [Surround.written, Flat.tag, includeTag]
  · rw [Flat.written, Flat.render, List.getLast?_append, isPage.opensLine]
    rfl
  · intro line mem newline
    exact (isFragment.still line mem _ newline).1 rfl
  · rw [Surround.render, ← indentLines_lines isFragment.filled isFragment.still, indented,
      ← isFragment.written]
    simp [Flat.written]

/-- Outside its slots the page is the composed text. -/
theorem filled_render (isPage : IsPage Asset.basePage.toList page)
    (isFragment : IsFragment lines flat) :
    Filled threat target (page.render Flat.tag flat) (page.render (shown threat target) flat) := by
  have blanks : IsPlain page.indentation := by
    intro character mem
    rw [isPage.blank character mem]
    decide
  have front : Filled threat target page.front.written _ :=
    filled_of_hasSlots isPage.front.slots isPage.front.sound.plain isPage.front.sound.lastPlain
  have back : Filled threat target page.back.written _ :=
    filled_of_hasSlots isPage.back.slots isPage.back.sound.plain isPage.back.sound.lastPlain
  refine front.append (.append (.of_isPlain blanks) (.append ?_ back))
  have sound := isFragment.isCut.sound
  apply filled_of_hasSlots
  · intro part mem
    rcases List.mem_map.mp mem with ⟨source, source_mem, rfl⟩
    exact isFragment.isCut.slots source source_mem
  · intro part mem
    rcases List.mem_map.mp mem with ⟨source, source_mem, rfl⟩
    exact isPlain_indentLines blanks (sound.plain source source_mem)
  · exact isPlain_indentLines blanks sound.lastPlain

/-- A page is made of two stored templates that are read as they are written. -/
theorem warning_of_stored {store : AssetStore} {pageText result : String}
    {written pageWritten : List Char} {nodes pageNodes : List Node}
    (stored : store path = .ok (Utf8.encode text))
    (pageStored : store base = .ok (Utf8.encode pageText))
    (written_eq : written = text.toList) (pageWritten_eq : pageWritten = pageText.toList)
    (read_eq : read? (String.ofList written) = some nodes)
    (pageRead_eq : read? (String.ofList pageWritten) = some pageNodes)
    (filled : fill [(fragmentName, nodes)] (data threat target) pageNodes = some result) :
    warning store threat path target = .ok result := by
  -- both texts are variables here: with the embedded ones in their place each step unfolds them
  subst written_eq pageWritten_eq
  rw [String.ofList_toList] at read_eq pageRead_eq
  simp only [warning, load, stored, pageStored, Utf8.decode?_encode, parse, read_eq, pageRead_eq,
    filled, bind, Except.bind]

theorem warning_eq (isPage : IsPage Asset.basePage.toList page)
    (stored : Asset.embeddedStore path = .ok (Utf8.encode text))
    (text_eq : text.toList = lines.flatMap (· ++ ['\n'])) (isFragment : IsFragment lines flat)
    (printable : target.HasPrintableHost) :
    warning Asset.embeddedStore threat path target =
      .ok (String.ofList (page.render (shown threat target) flat)) := by
  have isCut := isFragment.isCut
  apply warning_of_stored stored store_base (isFragment.written.trans text_eq.symm) isPage.written
    (Flat.read?_written isCut.sound) (Surround.read?_written isPage.sound includes_includeTag)
  apply Surround.fill_nodes isPage.sound isCut.sound isFragment.inLine
  · intro part mem
    rcases isCut.slots part mem with ⟨slot, _, label_eq⟩
    have notUrl : slot ≠ .url := by
      rintro rfl
      exact isFragment.noLink part mem label_eq.symm
    rw [← label_eq, shown_label]
    exact isStill_escape (isStill_value printable notUrl)
  · exact shows_of_hasSlots isPage.front.slots
  · exact shows_of_hasSlots isPage.back.slots
  · exact shows_of_hasSlots isCut.slots

end Warning

/-- For every threat that has a fragment and every link that can be read, there is a warning page,
and it is the composed text with nothing in its slots but texts that display the values. The
composed text does not depend on the link, and neither do the numbers of angle brackets and quotes.
-/
theorem warning_fills_composed (finding : Finding) {path : String}
    (registered : finding.threat.fragment? = some path) :
    ∃ text composed, Asset.embeddedStore path = .ok (Utf8.encode text) ∧
      Composes Asset.basePage.toList text.toList composed ∧
      ∀ {source : String} {target : Url}, Url.parse source = .ok target →
        ∃ page, warning Asset.embeddedStore finding.threat path target = .ok page ∧
          Filled finding.threat target composed page.toList ∧
          ∀ mark ∈ ['<', '>', '\x22'], page.toList.count mark = composed.count mark := by
  rcases basePage_isPage with ⟨page, isPage⟩
  rcases exists_fragment registered with ⟨text, stored, lines, flat, text_eq, isFragment⟩
  refine ⟨text, page.render Flat.tag flat, stored, composes isPage text_eq isFragment, ?_⟩
  intro source target parsed
  have printable := Url.hasPrintableHost_of_parseChars parsed
  have filled : Filled finding.threat target _ _ := filled_render isPage isFragment
  refine ⟨_, warning_eq isPage stored text_eq isFragment printable, ?_, ?_⟩
  · rwa [String.toList_ofList]
  · intro mark isMark
    rw [String.toList_ofList]
    exact filled.count_eq isMark

/-- A link with raw quotes, tags and braces adds none of them to its page. -/
theorem warning_fills_composed_raw :
    Threat.malware.fragment? = some "/malware.tmpl" ∧
      ∃ target composed page,
        Url.parse "data:text/html,\x22><script>\x7b\x7bname\x7d\x7d</script>" = .ok target ∧
        target.href = "data:text/html,\x22><script>\x7b\x7bname\x7d\x7d</script>" ∧
        warning Asset.embeddedStore .malware "/malware.tmpl" target = .ok page ∧
        Filled .malware target composed page.toList ∧
        ∀ mark ∈ ['<', '>', '\x22'], page.toList.count mark = composed.count mark := by
  have parsed : ∃ target,
      Url.parse "data:text/html,\x22><script>\x7b\x7bname\x7d\x7d</script>" = .ok target ∧
      target.href = "data:text/html,\x22><script>\x7b\x7bname\x7d\x7d</script>" := by
    refine ⟨⟨"data", false, "", none, none, none,
      "text/html,\x22><script>\x7b\x7bname\x7d\x7d</script>", none, none⟩, ?_, by decide +kernel⟩
    apply eq_ok_of_toOption
    decide +kernel
  rcases parsed with ⟨target, parsed, href_eq⟩
  rcases warning_fills_composed ⟨.malware, "http://a/"⟩ rfl with ⟨_, composed, _, _, every⟩
  rcases every parsed with ⟨page, shows, filled, counts⟩
  exact ⟨rfl, target, composed, page, parsed, href_eq, shows, filled, counts⟩

end LinkGuard.Page
