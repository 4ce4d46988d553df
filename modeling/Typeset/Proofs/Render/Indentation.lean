/-
Blocks at an indentation level.

Apart from lists, every block renders at a level as it does at the outermost
one, with the margin of the level in front of each line, however its lines are
put together. What rendering leaves behind is the same at every level, for lists
too. A heading is no exception: only the first line of its content stands behind
its marks, and where the content breaks its line the rest falls out of it.
-/
import Typeset.Proofs.Markup.Fence
import Typeset.Proofs.Render.Frame
import Typeset.Proofs.Render.NoteLines

namespace Typeset

/-! ## Constructs -/

namespace Markup

theorem codeBlock_level (lang : Option String) (value : String) (level : Nat) :
    codeBlock lang value level = Text.indent level (codeBlock lang value 0) := by
  rw [codeBlock_eq, codeBlock_eq, Text.indent_zero]

/-- The body of a quote stands one level deeper than its brackets. -/
theorem quoteBlock_level (body : String) (level : Nat) :
    quoteBlock body level = Text.indent level (quoteBlock body 0) := by
  unfold quoteBlock
  split
  · rw [Text.indent_append_newline, Text.indent_zero, Text.indent_zero]
  · simp only [Text.joinWith, Text.indent_append_newline, Text.indent_indent, Nat.add_zero,
      Nat.zero_add]

end Markup

/-! ## Blocks -/

namespace Block

variable (refs : References) (note : NoteExpander Logged) (level : Nat)

/-- **A block that is no list is moved as a whole.** -/
theorem value_render_level {b : Block} (h : b.isList = false) :
    (b.render refs note level).value = (b.render refs note 0).value.map (Text.indent level) := by
  cases b with
  | frontmatter | linkDefinition | footnoteDefinition => simp [render]
  | heading | paragraph | thematicBreak | mathBlock => simp [render, Text.indent_zero]
  | list => cases h
  | codeBlock lang value => simp [render, ← Markup.codeBlock_level]
  | blockquote children => simp [render, ← Markup.quoteBlock_level]
  | table align rows => cases rows <;> simp [render, renderTable, Text.indent_zero]

theorem warnings_render_level (b : Block) :
    (b.render refs note level).warnings = (b.render refs note 0).warnings := by
  rw [warnings_render, warnings_render]

end Block

namespace Context

/-- **A level moves lines and does nothing else.** A block that is no list renders to something at a
level exactly if it does at the outermost one, and then to the same lines, each behind two spaces for
every level. Every block, lists included, leaves the same context at each level; so does the
rendering that enters and leaves notes in the context itself, where notes may nest as deep as there
are any. -/
theorem level_moves_lines (c : Context) (b : Block) (level : Nat) :
    (b.isList = false →
      ((c.renderBlock b level).1 = none ↔ (c.renderBlock b 0).1 = none) ∧
      ∀ s, (c.renderBlock b 0).1 = some s → ∃ t, (c.renderBlock b level).1 = some t ∧
        Text.lines t = (Text.lines s).map (List.replicate (2 * level) ' ' ++ ·)) ∧
    (c.renderBlock b level).2 = (c.renderBlock b 0).2 ∧
    ∀ limit, c.references.noteKeys.length ≤ limit → ∃ o o₀ : Watched.Outcome (Option String),
      b.render c.references (Watched.expandNote limit) level c = some o ∧
      b.render c.references (Watched.expandNote limit) 0 c = some o₀ ∧
      o.value = (c.renderBlock b level).1 ∧ o₀.value = (c.renderBlock b 0).1 ∧
      o.context = o₀.context := by
  have hwarnings : ((Piece.block b level).outcome c.references c.opened).warnings =
      ((Piece.block b 0).outcome c.references c.opened).warnings :=
    Block.warnings_render_level _ _ level b
  refine ⟨fun hb => ?_, ?_, fun limit hlimit => ?_⟩
  · have hvalue : (c.renderBlock b level).1 = (c.renderBlock b 0).1.map (Text.indent level) :=
      Block.value_render_level _ _ level hb
    refine ⟨by rw [hvalue, Option.map_eq_none_iff], fun s hs => ⟨Text.indent level s, ?_, ?_⟩⟩
    · rw [hvalue, hs, Option.map_some]
    · exact Text.lines_indent level s
  · exact congrArg c.append hwarnings
  · have hc : c.Over c.references c.opened := ⟨rfl, fun _ => Iff.rfl⟩
    obtain ⟨es, hlevel⟩ := hc.watched (.block b level) hlimit
    obtain ⟨es₀, hzero⟩ := hc.watched (.block b 0) hlimit
    exact ⟨_, _, hlevel, hzero, rfl, rfl, congrArg c.append hwarnings⟩

/-- A quote around a list, a definition and a note. -/
def quotedList : Block := .blockquote
  [.list false [[.paragraph [.text "a\nb"], .mathBlock "x"]], .linkDefinition "l" "u",
   .paragraph [.footnoteReference "a"]]

theorem level_moves_lines_quotedList :
    let c : Context := ⟨mutualNotes, ["b"], [.unknownStyle "s"]⟩
    let s := "#quote[\n  - a\n  b\n    $ x $\n  \n  #footnote[x]\n]"
    (c.renderBlock quotedList 0).1 = some s ∧
      (∃ t, (c.renderBlock quotedList 2).1 = some t ∧
        Text.lines t = (Text.lines s).map (List.replicate 4 ' ' ++ ·)) ∧
      (c.renderBlock quotedList 2).2 = c.append [.recursiveFootnote "b"] ∧
      ∃ o o₀, quotedList.render mutualNotes (Watched.expandNote 2) 2 c = some o ∧
        quotedList.render mutualNotes (Watched.expandNote 2) 0 c = some o₀ ∧
        o.context = o₀.context := by
  intro c s
  have htext : (c.renderBlock quotedList 0).1 = some s := by decide +kernel
  have hwarnings : (c.renderBlock quotedList 0).2.warnings =
      [.unknownStyle "s", .recursiveFootnote "b"] := by decide +kernel
  have hcontext : (c.renderBlock quotedList 0).2 = c.append [.recursiveFootnote "b"] :=
    congrArg (Context.mk mutualNotes ["b"]) hwarnings
  obtain ⟨hlines, hleaves, hwatched⟩ := level_moves_lines c quotedList 2
  obtain ⟨o, o₀, hlevel, hzero, -, -, heq⟩ := hwatched 2 (Nat.le_refl 2)
  exact ⟨htext, (hlines rfl).2 s htext, hleaves.trans hcontext, o, o₀, hlevel, hzero, heq⟩

/-! ## Headings -/

/-- **A heading stays on its line exactly if its content does.** The marks and the first line of the
content are the first line of a heading, and every other line of the content is a line of its own
without any marks. There are other lines if the content has a hard break, or a text, code, a
formula, a URL or a note that brings a line feed along. -/
theorem heading_breaks_iff (c : Context) (depth : UInt8) (children : List Inline) (level : Nat) :
    ∃ out first rest, (c.renderBlock (.heading depth children) level).1 = some out ∧
      Text.lines (c.renderInlines children).1 = first :: rest ∧
      Text.lines out =
        (Text.margin level ++ (List.replicate (Markup.headingLevel depth) '=' ++ ' ' :: first)) ::
          rest.map (Text.margin level ++ ·) ∧
      ('\n' ∈ out.toList ↔ rest ≠ []) ∧
      ('\n' ∈ out.toList ↔ Inline.anyFeeds c.references c.expander children) := by
  obtain ⟨first, rest, hcontent⟩ := List.exists_cons_of_ne_nil
    (List.splitOn_ne_nil '\n' (c.renderInlines children).1.toList)
  have hmarks : '\n' ∉ (Text.replicate (Markup.headingLevel depth) '=' ++ " ").toList := by
    simp [Text.replicate]
  have hlines := Text.lines_append hmarks hcontent
  have hfirst : (Text.replicate (Markup.headingLevel depth) '=' ++ " ").toList ++ first =
      List.replicate (Markup.headingLevel depth) '=' ++ ' ' :: first := by
    simp [Text.replicate]
  rw [hfirst] at hlines
  refine ⟨_, first, rest, rfl, hcontent, (Text.lines_indent level _).trans (congrArg _ hlines), ?_,
    Block.newline_mem_render (.heading depth children)⟩
  exact Text.newline_mem_indent.trans (Text.newline_mem_iff hlines)

/-- **A heading of two lines leaves the second without its marks.** -/
theorem wrapped_heading_breaks :
    let c : Context := {}
    (c.renderBlock (.heading 2 [.text "a\nb"]) 0).1 = some "== a\nb" ∧ '\n' ∈ "== a\nb".toList := by
  decide +kernel

end Context

end Typeset
