/-
Line feeds in a note.

The blocks of a note are joined by spaces, and the blank characters at both
ends are taken off, but what stands inside a block stays as it is. So a note
stays on one line exactly where no block has a line feed between the first and
the last character that is not blank. Which blocks have line feeds at all can
be told without rendering them, up to the notes and blank labels inside.
-/
import Typeset.Proofs.Markup.Literal
import Typeset.Proofs.Render.Brackets
import Typeset.Proofs.Render.Items
import Typeset.Proofs.Render.Title

namespace Typeset

/-! ## Constructs -/

namespace Markup

theorem newline_mem_protected {p : Char → Bool} {cs : List Char} :
    '\n' ∈ cs.flatMap (fun c => if p c then ['\\', c] else [c]) ↔ '\n' ∈ cs := by
  rw [List.mem_flatMap]
  constructor
  · rintro ⟨c, hc, hmem⟩
    obtain rfl : '\n' = c := by
      split at hmem <;> simpa using hmem
    exact hc
  · intro h
    exact ⟨_, h, by split <;> simp⟩

@[simp] theorem newline_mem_escapeText {s : String} :
    '\n' ∈ (escapeText s).toList ↔ '\n' ∈ s.toList := by
  rw [escapeText, String.toList_ofList]
  exact newline_mem_protected

@[simp] theorem newline_mem_inlineCode {value : String} :
    '\n' ∈ (inlineCode value).toList ↔ '\n' ∈ value.toList := by
  simp only [inlineCode, String.toList_append, String.toList_ofList, List.mem_append,
    newline_mem_protected]
  simp

theorem newline_mem_image (url : String) : '\n' ∉ (image url).toList := by
  simp [image, not_mem_quote]

theorem newline_mem_link {url label : String} : '\n' ∈ (link url label).toList ↔
    if Text.isBlankText label then '\n' ∈ url.toList else '\n' ∈ label.toList := by
  simp only [link, String.toList_append, List.mem_append, not_mem_quote]
  split <;> simp

theorem newline_mem_codeBlock (lang : Option String) (value : String) (level : Nat) :
    '\n' ∈ (codeBlock lang value level).toList := by
  simp [codeBlock, Text.mem_joinWith]

theorem newline_mem_quoteBlock (body : String) (level : Nat) :
    '\n' ∈ (quoteBlock body level).toList := by
  unfold quoteBlock
  split <;> simp [Text.mem_joinWith]

theorem newline_mem_table (align : List (Option Align)) (columns : Nat) (cells : List String) :
    '\n' ∈ (table align columns cells).toList := by
  simp [table, Text.mem_joinWith]

end Markup

/-! ## Phrasing content -/

section

variable (refs : References) (note : NoteExpander Logged)

mutual

/-- Whether the markup of an inline has a line feed. -/
def Inline.feeds : Inline → Prop
  | .text value | .inlineCode value => '\n' ∈ value.toList
  | .inlineMath value => '\n' ∈ (Text.trimBlanks value).toList
  | .strong children | .emphasis children | .strike children | .highlight children
  | .subscript children | .superscript children => Inline.anyFeeds children
  | .link url children =>
    if Text.isBlankText (Inline.renderAll refs note children).value then '\n' ∈ url.toList
    else Inline.anyFeeds children
  | .linkReference identifier label children =>
    match refs.url? identifier with
    | some url =>
      if Text.isBlankText (Inline.renderAll refs note children).value then '\n' ∈ url.toList
      else Inline.anyFeeds children
    | none =>
      if (Inline.renderAll refs note children).value.isEmpty then
        '\n' ∈ (literalLabel label identifier).toList
      else Inline.anyFeeds children
  | .footnoteReference identifier => '\n' ∈ ((note identifier).value.getD "").toList
  | .image _ _ => False
  | .lineBreak => True

def Inline.anyFeeds : List Inline → Prop
  | [] => False
  | i :: is => i.feeds ∨ Inline.anyFeeds is

end

end

section

variable {refs : References} {note : NoteExpander Logged}

mutual

theorem Inline.newline_mem_render : ∀ i : Inline,
    '\n' ∈ ((i.render refs note).value.getD "").toList ↔ i.feeds refs note
  | .text value => Markup.newline_mem_escapeText
  | .inlineCode value => Markup.newline_mem_inlineCode
  | .inlineMath value => by simp [Inline.render, Inline.feeds, Markup.inlineMath]
  | .strong children | .emphasis children => by
    simp [Inline.render, Inline.feeds, Inline.newline_mem_renderAll children]
  | .strike children | .highlight children | .subscript children | .superscript children => by
    simp [Inline.render, Inline.feeds, Markup.call, Inline.newline_mem_renderAll children]
  | .link url children => by
    simp [Inline.render, Inline.feeds, Markup.newline_mem_link,
      Inline.newline_mem_renderAll children]
  | .linkReference identifier label children => by
    rw [Inline.render, Inline.feeds, Logged.value_bind]
    cases refs.url? identifier with
    | some url => simp [Markup.newline_mem_link, Inline.newline_mem_renderAll children]
    | none =>
      rw [Logged.value_bind, Logged.value_pure, Option.getD_some]
      split
      · rw [Markup.newline_mem_escapeText]
      · rw [Inline.newline_mem_renderAll children]
  | .footnoteReference identifier => by simp [Inline.render, Inline.feeds]
  | .image url _ => iff_of_false (Markup.newline_mem_image url) not_false
  | .lineBreak => by simp [Inline.render, Inline.feeds]

theorem Inline.newline_mem_renderAll : ∀ is : List Inline,
    '\n' ∈ (Inline.renderAll refs note is).value.toList ↔ Inline.anyFeeds refs note is
  | [] => by simp [Inline.renderAll, Inline.anyFeeds]
  | i :: is => by
    simp [Inline.renderAll, Inline.anyFeeds, Inline.newline_mem_render i,
      Inline.newline_mem_renderAll is]

end

end

/-! ## Blocks -/

namespace Block

/-- A block that renders to nothing. -/
def isSilent : Block → Bool
  | .frontmatter _ | .linkDefinition _ _ | .footnoteDefinition _ _ | .table _ [] => true
  | _ => false

variable (refs : References) (note : NoteExpander Logged)

/-- Whether the markup of a list item has a line feed: in the paragraph behind its marker, or since
other blocks stand on lines of their own. -/
def itemFeeds : List Block → Prop
  | .paragraph children :: rest =>
    (¬ Inline.isOutline refs children ∧ Inline.anyFeeds refs note children) ∨
      ∃ b ∈ rest, b.isSilent = false
  | item => ∃ b ∈ item, b.isSilent = false

/-- Whether the markup of a block has a line feed. -/
def feeds : Block → Prop
  | .heading _ children => Inline.anyFeeds refs note children
  | .paragraph children => ¬ Inline.isOutline refs children ∧ Inline.anyFeeds refs note children
  | .list _ [] => False
  | .list _ [item] => itemFeeds refs note item
  | .list _ (_ :: _ :: _) => True
  | .codeBlock _ _ | .blockquote _ => True
  | .table _ rows => rows ≠ []
  | .mathBlock value => '\n' ∈ (Text.trimBlanks value).toList
  | .frontmatter _ | .linkDefinition _ _ | .footnoteDefinition _ _ | .thematicBreak => False

variable {refs note} {level : Nat}

theorem newline_mem_renderParagraph (children : List Inline) :
    '\n' ∈ (Inline.renderParagraph refs note children).value.toList ↔
      ¬ Inline.isOutline refs children ∧ Inline.anyFeeds refs note children := by
  by_cases ho : Inline.isOutline refs children
  · have hout : '\n' ∉ Markup.outline.toList := by decide
    simpa [Inline.renderParagraph_eq, ho] using hout
  · simpa [Inline.renderParagraph_eq, ho] using Inline.newline_mem_renderAll children

/-- A block leaves something below a marker unless it renders to nothing. -/
theorem under_eq_nil_iff (b : Block) : under refs note (level + 1) b = [] ↔ b.isSilent := by
  unfold under
  cases b with
  | frontmatter | linkDefinition | footnoteDefinition | list => simp [render, isList, isSilent]
  | heading | paragraph | thematicBreak | mathBlock =>
    simp [render, isList, isSilent, Text.indent_succ_ne_empty]
  | codeBlock lang value =>
    have hne : Markup.codeBlock lang value (level + 1) ≠ "" := fun he => by
      simpa [he] using Markup.newline_mem_codeBlock lang value (level + 1)
    simp [render, isList, isSilent, hne]
  | blockquote children =>
    have hne (body : String) : Markup.quoteBlock body (level + 1) ≠ "" := fun he => by
      simpa [he] using Markup.newline_mem_quoteBlock body (level + 1)
    simp [render, isList, isSilent, hne]
  | table align rows =>
    cases rows <;> simp [render, renderTable, isList, isSilent, Text.indent_succ_ne_empty]

theorem newline_mem_item {marker : String} {text : Option String} {lines : List String}
    (hm : '\n' ∉ marker.toList) : '\n' ∈ (Markup.item marker level text lines).toList ↔
      '\n' ∈ (text.getD "").toList ∨ lines ≠ [] := by
  have hspaces : '\n' ∉ (Text.replicate (2 * level) ' ').toList := by simp [Text.replicate]
  unfold Markup.item
  rw [Text.mem_joinWith]
  cases lines with
  | nil => cases text <;> simp [hspaces, hm]
  | cons line lines => simp

theorem newline_mem_itemText (ordered : Bool) (item : List Block) :
    '\n' ∈ (itemText refs note level (Markup.marker ordered) item).toList ↔
      itemFeeds refs note item := by
  have hbelow (bs : List Block) : bs.flatMap (under refs note (level + 1)) ≠ [] ↔
      ∃ b ∈ bs, b.isSilent = false := by
    simp [List.flatMap_eq_nil_iff, under_eq_nil_iff]
  rw [itemText, newline_mem_item (newline_not_mem_marker ordered), hbelow]
  unfold openingText belowMarker itemFeeds
  split
  · rw [Option.getD_some, newline_mem_renderParagraph]
  · simp

theorem newline_mem_renderList (ordered : Bool) (items : List (List Block)) :
    '\n' ∈ (((Block.list ordered items).render refs note level).value.getD "").toList ↔
      (Block.list ordered items).feeds refs note := by
  rw [value_render_list, Option.getD_some]
  match items with
  | [] => simp [feeds, Text.joinWith]
  | [item] => simp [feeds, Text.joinWith, newline_mem_itemText]
  | first :: second :: items => simp [feeds, Text.mem_joinWith]

/-- **What breaks the lines of a block.** -/
theorem newline_mem_render (b : Block) :
    '\n' ∈ ((b.render refs note level).value.getD "").toList ↔ b.feeds refs note := by
  cases b with
  | frontmatter | linkDefinition | footnoteDefinition => simp [render, feeds]
  | heading depth children =>
    simp [render, feeds, Text.replicate, Text.newline_mem_indent, Inline.newline_mem_renderAll]
  | paragraph children =>
    simp [render, feeds, Text.newline_mem_indent, newline_mem_renderParagraph]
  | list ordered items => exact newline_mem_renderList ordered items
  | codeBlock lang value => simp [render, feeds, Markup.newline_mem_codeBlock]
  | blockquote children => simp [render, feeds, Markup.newline_mem_quoteBlock]
  | thematicBreak =>
    have hbreak : '\n' ∉ Markup.thematicBreak.toList := by decide
    simp [render, feeds, Text.newline_mem_indent, hbreak]
  | table align rows =>
    cases rows <;>
      simp [render, renderTable, feeds, Text.newline_mem_indent, Markup.newline_mem_table]
  | mathBlock value => simp [render, feeds, Text.newline_mem_indent, Markup.mathBlock]

end Block

/-! ## Notes -/

/-- Between parts that are joined by a space a line feed stays that stands between two characters
that are not blank, in the parts that follow one another. -/
theorem Text.newline_mem_joined {parts : List (Option String)} :
    '\n' ∈ (Text.trimBlanks (Text.joinNonEmpty " " parts)).toList ↔
      '\n' ∈ Text.stripBoth Text.isBlank (parts.flatMap fun part => (part.getD "").toList) := by
  -- A space can be trimmed and is no line feed, so without any spaces the same line feeds stay.
  let q (c : Char) : Bool := c != ' '
  have hkeep (cs : List Char) :
      '\n' ∈ Text.stripBoth Text.isBlank (cs.filter q) ↔ '\n' ∈ Text.stripBoth Text.isBlank cs := by
    have hblank : ∀ c, q c = false → Text.isBlank c := by
      intro c hc
      obtain rfl : c = ' ' := by simpa [q] using hc
      decide
    rw [Text.stripBoth_filter hblank, List.mem_filter]
    simp [q]
  have hjoined : (Text.joinNonEmpty " " parts).toList.filter q =
      (parts.flatMap fun part => (part.getD "").toList).filter q := by
    rw [Text.joinNonEmpty_eq, Text.filter_joinWith (by simp [q]), Text.flatMap_filter_isEmpty,
      List.flatMap_map]
  rw [Text.toList_trimBlanks, ← hkeep, hjoined, hkeep]

namespace Context

variable {c inside : Context} {identifier : String} {body : List Block}

/-- **A note breaks its line exactly where a block of its body has a line feed inside.** The blocks
are written one after another on one line, and what comes out is trimmed at its two ends: so a line
feed of a block stays if anything but blanks comes before it, in that block or in those before, and
behind it. A block has a line feed if it is code, a quote, a table with rows, a list of two items or
an item with blocks under it, or if its own text has one: a hard break, or a line feed that prose,
code, a formula, a URL or another note brings along. -/
theorem note_breaks_iff (hn : c.references.note? identifier = some body)
    (he : c.enter? (Text.lowercase identifier) = some inside) :
    let mark (b : Block) := ((inside.renderBlock b 0).1.getD "").toList
    ∃ text, (c.renderInline (.footnoteReference identifier)).1 =
        some ("#footnote[" ++ text ++ "]") ∧
      ('\n' ∈ text.toList ↔ ∃ before b behind u v, body = before ++ b :: behind ∧
        mark b = u ++ '\n' :: v ∧
        (∃ d ∈ before.flatMap mark ++ u, Text.isBlank d = false) ∧
        ∃ d ∈ v ++ behind.flatMap mark, Text.isBlank d = false) ∧
      ∀ b, '\n' ∈ mark b ↔ b.feeds c.references inside.expander := by
  intro mark
  obtain ⟨ho, rfl⟩ : Text.lowercase identifier ∉ c.opened ∧
      { c with opened := c.opened ++ [Text.lowercase identifier] } = inside := by
    simpa [enter?] using he
  refine ⟨c.references.noteText c.opened identifier body,
    References.value_expandNote_closed hn ho, ?_, fun b => Block.newline_mem_render b⟩
  rw [References.noteText, Text.newline_mem_joined, Document.value_renderAll, List.flatMap_map,
    Text.mem_stripBoth_iff (by decide)]
  constructor
  · rintro ⟨u, v, hmarks, hu, hv⟩
    obtain ⟨before, b, behind, u', v', hbody, hb, rfl, rfl⟩ :=
      Text.flatMap_eq_append_cons_iff.1 hmarks
    exact ⟨before, b, behind, u', v', hbody, hb, hu, hv⟩
  · rintro ⟨before, b, behind, u, v, hbody, hb, hu, hv⟩
    exact ⟨_, _, Text.flatMap_eq_append_cons_iff.2 ⟨before, b, behind, u, v, hbody, hb, rfl, rfl⟩,
      hu, hv⟩

/-- A note of one paragraph that goes over two lines. -/
def wrappedNote : Context :=
  { references := .ofBlocks [.footnoteDefinition "n" [.paragraph [.text "a\nb"]]] }

theorem note?_wrappedNote :
    wrappedNote.references.note? "n" = some [.paragraph [.text "a\nb"]] := by
  simp [wrappedNote, References.note?, References.noteEntry?]

theorem note_breaks_iff_wrapped : ∃ text,
    (wrappedNote.renderInline (.footnoteReference "n")).1 = some ("#footnote[" ++ text ++ "]") ∧
      '\n' ∈ text.toList := by
  have hopen : wrappedNote.enter? (Text.lowercase "n") =
      some { wrappedNote with opened := [Text.lowercase "n"] } := rfl
  obtain ⟨text, htext, hiff, -⟩ := note_breaks_iff note?_wrappedNote hopen
  refine ⟨text, htext, hiff.2 ⟨[], _, [], ['a'], ['b'], rfl, ?_, ?_, ?_⟩⟩
  · decide +kernel
  · exact ⟨'a', by simp, by decide⟩
  · exact ⟨'b', by simp, by decide⟩

/-- **A line feed of the prose stays in the note.** -/
theorem wrapped_note_breaks :
    wrappedNote.references.note? "n" = some [.paragraph [.text "a\nb"]] ∧
      (wrappedNote.enter? (Text.lowercase "n")).isSome ∧
      (wrappedNote.renderInline (.footnoteReference "n")).1 = some "#footnote[a\nb]" ∧
      '\n' ∈ "#footnote[a\nb]".toList := by
  refine ⟨note?_wrappedNote, rfl, ?_, by decide⟩
  have hvalue := References.value_expandNote_closed (s := []) note?_wrappedNote (by simp)
  have htext : wrappedNote.references.noteText [] "n" [.paragraph [.text "a\nb"]] = "a\nb" := by
    decide +kernel
  rw [htext] at hvalue
  exact hvalue

end Context

end Typeset
