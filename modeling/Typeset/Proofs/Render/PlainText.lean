/-
What is dropped for its plain text.

A heading that repeats the title is left out, and a paragraph that reads
`[toc]` gives way to the outline. Both are told by their plain text, which
leaves out some kinds of nodes that markup shows. `Holds` says what markup
shows: a text, and pieces beside it. Of a run of inlines the text has no
character that plain text does not read, blanks apart, and the pieces are the
nodes that it leaves out. So only those are lost where a run is dropped.
-/
import Typeset.Proofs.Render.Neighbours
import Typeset.Proofs.Render.Shown
import Typeset.Proofs.Render.Title

namespace Typeset

/-! ## Visible characters -/

namespace Text

/-- The characters of a text that are not blank. -/
def visible (s : String) : List Char := s.toList.filter (!isBlank ·)

@[simp] theorem visible_empty : visible "" = [] := rfl

@[simp] theorem visible_append (s t : String) : visible (s ++ t) = visible s ++ visible t := by
  simp [visible]

theorem visible_eq_nil_iff {s : String} : visible s = [] ↔ isBlankText s = true := by
  simp [visible, isBlankText]

theorem isBlankText_append (s t : String) :
    isBlankText (s ++ t) = (isBlankText s && isBlankText t) := by
  simp [isBlankText]

theorem visible_trimBlanks (s : String) : visible (trimBlanks s) = visible s := by
  obtain ⟨lead, trail, hs, hlead, htrail⟩ := exists_stripBoth isBlank s.toList
  have hblank {cs : List Char} (h : cs.all isBlank = true) : cs.filter (!isBlank ·) = [] := by
    simpa using h
  rw [visible, visible, hs, List.filter_append, List.filter_append, hblank hlead, hblank htrail,
    toList_trimBlanks, List.nil_append, List.append_nil]

end Text

/-! ## What markup shows -/

namespace Markup

/-- A piece of markup that shows something else than text. -/
def IsPiece (m : String) : Prop := IsCall m ∨ ∃ value, m = inlineMath value

/-- Markup shows a text, and pieces beside it: prose and code show their values, a hard break shows
a line feed, strong and emphasised markup shows what it holds, and a link its label. -/
inductive Holds : String → String → List String → Prop
  | nil : Holds "" "" []
  | append {m m' text text' : String} {pieces pieces' : List String} :
      Holds m text pieces → Holds m' text' pieces' →
      Holds (m ++ m') (text ++ text') (pieces ++ pieces')
  | prose (value : String) : Holds (escapeText value) value []
  | code (value : String) : Holds (inlineCode value) value []
  | lineBreak : Holds "\\\n" "\n" []
  | strong {m text : String} {pieces : List String} :
      Holds m text pieces → Holds ("*" ++ m ++ "*") text pieces
  | emphasis {m text : String} {pieces : List String} :
      Holds m text pieces → Holds ("_" ++ m ++ "_") text pieces
  | link {m text : String} {pieces : List String} (url : String) :
      Holds m text pieces → Holds ("#link(" ++ quote url ++ ")[" ++ m ++ "]") text pieces
  | piece {m : String} : IsPiece m → Holds m "" [m]

theorem IsPiece.not_blank {m : String} (h : IsPiece m) : Text.isBlankText m = false := by
  obtain his | ⟨value, rfl⟩ := h
  · obtain ⟨inside, hs | hs⟩ := his.ends <;> rw [Text.isBlankText, hs] <;> rfl
  · simp [Text.isBlankText, inlineMath, Text.isBlank]

theorem Holds.of_isBlankText {m text : String} {pieces : List String} (h : Holds m text pieces)
    (hb : Text.isBlankText m = true) : pieces = [] ∧ Text.visible text = [] := by
  induction h with
  | nil => exact ⟨rfl, rfl⟩
  | append _ _ ih ih' =>
    rw [Text.isBlankText_append, Bool.and_eq_true] at hb
    simp [ih hb.1, ih' hb.2]
  | prose value =>
    rw [isBlankText_escapeText] at hb
    exact ⟨rfl, Text.visible_eq_nil_iff.2 hb⟩
  | piece hp =>
    rw [hp.not_blank] at hb
    cases hb
  | code | lineBreak | strong | emphasis | link =>
    simp [Text.isBlankText, inlineCode, Text.isBlank] at hb

/-- Markup that is read as a plain text: what it shows as text is read, and if all references in it
have a text then nothing else is. -/
structure ReadAs (m text : String) (pieces : List String) (plain : String) (named : Bool) :
    Prop where
  holds : Holds m text pieces
  read : (Text.visible text).Sublist (Text.visible plain)
  all : named = true → Text.visible text = Text.visible plain

namespace ReadAs

variable {m m' text text' plain plain' : String} {pieces pieces' : List String}
  {named named' : Bool}

theorem exact (h : Holds m text pieces) : ReadAs m text pieces text named :=
  ⟨h, .refl _, fun _ => rfl⟩

theorem piece (h : IsPiece m) (hplain : named = true → Text.visible plain = []) :
    ReadAs m "" [m] plain named :=
  ⟨.piece h, by simp, fun hn => (hplain hn).symm⟩

theorem append (h : ReadAs m text pieces plain named) (h' : ReadAs m' text' pieces' plain' named') :
    ReadAs (m ++ m') (text ++ text') (pieces ++ pieces') (plain ++ plain') (named && named') := by
  refine ⟨h.holds.append h'.holds, ?_, fun hn => ?_⟩
  · simpa using h.read.append h'.read
  · rw [Bool.and_eq_true] at hn
    rw [Text.visible_append, Text.visible_append, h.all hn.1, h'.all hn.2]

/-- Only what is not blank of the plain text counts. -/
theorem of_visible_eq (h : ReadAs m text pieces plain named)
    (he : Text.visible plain = Text.visible plain') : ReadAs m text pieces plain' named :=
  ⟨h.holds, he ▸ h.read, he ▸ h.all⟩

/-- Where the plain text is blank, another may be read in its place. -/
theorem fallback (h : ReadAs m text pieces plain named) (other : String) :
    ReadAs m text pieces (if Text.isBlankText plain then other else plain)
      (!Text.isBlankText plain && named) := by
  by_cases hb : Text.isBlankText plain = true
  · have hnone : Text.visible text = [] := by
      simpa [Text.visible_eq_nil_iff.2 hb] using h.read
    refine ⟨h.holds, by simp [hnone], fun hn => ?_⟩
    rw [hb] at hn
    cases hn
  · rw [if_neg hb]
    refine ⟨h.holds, h.read, fun hn => h.all ?_⟩
    exact (Bool.and_eq_true_iff.1 hn).2

theorem link (h : ReadAs m text pieces plain named) (url : String)
    (hb : ¬ Text.isBlankText m = true) :
    ReadAs (Markup.link url m) text pieces plain named := by
  rw [Markup.link, if_neg hb]
  exact ⟨.link url h.holds, h.read, h.all⟩

theorem eq_nil_of_blank (h : ReadAs m text pieces plain named) (hb : Text.isBlankText m = true)
    (hnamed : named = true) : Text.visible plain = [] := by
  rw [← h.all hnamed]
  exact (h.holds.of_isBlankText hb).2

end ReadAs

end Markup

/-! ## Runs of inlines -/

namespace Inline

open Markup (Holds ReadAs)

section

variable (refs : References) (note : NoteExpander Logged)

mutual

/-- The pieces of markup of an inline that plain text leaves out: those of the kinds that it
ignores, and links that show a URL which it does not read. -/
def unread : Inline → List String
  | .text _ | .inlineCode _ | .lineBreak => []
  | .strong children | .emphasis children => unreadAll children
  | .link url children =>
    let label := (renderAll refs note children).value
    if Text.isBlankText label then [Markup.link url label] else unreadAll children
  | .linkReference identifier _ children =>
    let label := (renderAll refs note children).value
    match refs.url? identifier with
    | some url =>
      if Text.isBlankText label && !Text.isBlankText (plainTexts refs children) then
        [Markup.link url label]
      else unreadAll children
    | none => unreadAll children
  | i => (i.render refs note).value.toList

def unreadAll : List Inline → List String
  | [] => []
  | i :: is => unread i ++ unreadAll is

end

mutual

/-- Whether each reference that plain text reads has a text of its own. -/
def isNamed : Inline → Bool
  | .linkReference _ _ children => !Text.isBlankText (plainTexts refs children) && areNamed children
  | .strong children | .emphasis children | .link _ children => areNamed children
  | _ => true

def areNamed : List Inline → Bool
  | [] => true
  | i :: is => isNamed i && areNamed is

end

end

variable {refs : References} {note : NoteExpander Logged}

mutual

/-- What shows nothing is read as nothing. -/
theorem plainText_of_render_empty : ∀ i : Inline, (i.render refs note).value.getD "" = "" →
    i.plainText refs = ""
  | .text value, h => by simpa [render, plainText] using h
  | .linkReference identifier label children, h => by
    rw [render, Logged.value_bind] at h
    cases hurl : refs.url? identifier with
    | some url => simp [hurl, Markup.link] at h
    | none =>
      simp only [hurl, Logged.value_bind, Logged.value_pure, Option.getD_some] at h
      split at h
      · rename_i htext
        have hplain := plainTexts_of_renderAll_empty children (String.isEmpty_iff.1 htext)
        have hlabel := Markup.escapeText_eq_empty_iff.1 h
        simp [plainText, hplain, hurl, hlabel]
      · rename_i htext
        exact absurd (String.isEmpty_iff.2 h) htext
  | .strong _, h | .emphasis _, h | .link _ _, h | .inlineCode _, h | .lineBreak, h => by
    simp [render, Markup.link, Markup.inlineCode] at h
  | .strike _, _ | .highlight _, _ | .subscript _, _ | .superscript _, _ | .inlineMath _, _
  | .footnoteReference _, _ | .image _ _, _ => by rw [plainText]

theorem plainTexts_of_renderAll_empty : ∀ is : List Inline,
    (renderAll refs note is).value = "" → plainTexts refs is = ""
  | [], _ => rfl
  | i :: is, h => by
    obtain ⟨hi, his⟩ : (i.render refs note).value.getD "" = "" ∧
        (renderAll refs note is).value = "" := by
      simpa [renderAll] using h
    rw [plainTexts, plainText_of_render_empty i hi, plainTexts_of_renderAll_empty is his]
    rfl

end

mutual

theorem exists_readAs (hn : NotesCall note) : ∀ i : Inline, ∃ text,
    ReadAs ((i.render refs note).value.getD "") text (i.unread refs note) (i.plainText refs)
      (i.isNamed refs)
  | .text value => ⟨value, .exact (.prose value)⟩
  | .inlineCode value => ⟨value, .exact (.code value)⟩
  | .lineBreak => ⟨"\n", .exact .lineBreak⟩
  | .strong children => by
    obtain ⟨text, h⟩ := exists_readAs_all hn children
    exact ⟨text, .strong h.holds, h.read, h.all⟩
  | .emphasis children => by
    obtain ⟨text, h⟩ := exists_readAs_all hn children
    exact ⟨text, .emphasis h.holds, h.read, h.all⟩
  | .strike _ | .highlight _ | .subscript _ | .superscript _ =>
    ⟨"", .piece (.inl (.content _ _)) fun _ => rfl⟩
  | .inlineMath value => ⟨"", .piece (.inr ⟨value, rfl⟩) fun _ => rfl⟩
  | .image url _ => ⟨"", .piece (.inl (.image url)) fun _ => rfl⟩
  | .footnoteReference identifier => by
    refine ⟨"", ?_⟩
    cases hnote : (note identifier).value with
    | none => simpa [render, unread, plainText, hnote] using ReadAs.exact .nil
    | some s =>
      simpa [render, unread, plainText, hnote] using
        ReadAs.piece (.inl (hn identifier s hnote)) fun _ => rfl
  | .link url children => by
    obtain ⟨text, h⟩ := exists_readAs_all hn children
    simp only [render, unread, plainText, isNamed, Logged.value_bind, Logged.value_pure,
      Option.getD_some]
    split
    · rename_i hb
      exact ⟨"", .piece (.inl (.link url _)) fun hnamed => h.eq_nil_of_blank hb hnamed⟩
    · rename_i hb
      exact ⟨text, h.link url hb⟩
  | .linkReference identifier label children => by
    obtain ⟨text, h⟩ := exists_readAs_all hn children
    simp only [render, unread, plainText, isNamed, Logged.value_bind]
    cases refs.url? identifier with
    | some url =>
      simp only [Logged.value_pure, Option.getD_some]
      by_cases hb : Text.isBlankText (renderAll refs note children).value = true
      · by_cases hplain : Text.isBlankText (plainTexts refs children) = true
        · -- The URL is shown and read.
          have hnone := (h.holds.of_isBlankText hb).1
          simpa [Markup.link, hb, hplain, hnone] using
            ⟨url, ReadAs.exact (.link url (.prose url))⟩
        · -- The URL is shown, but the text of the reference is read.
          have hpiece := ReadAs.piece (.inl (.link url (renderAll refs note children).value))
            (h.eq_nil_of_blank hb)
          simpa [hb, hplain] using ⟨"", hpiece⟩
      · have hread := (h.link url hb).fallback url
        simpa [hb] using ⟨text, hread⟩
    | none =>
      simp only [Logged.value_bind, Logged.value_pure, Option.getD_some, Option.getD_none]
      split
      · rename_i htext
        have hmarkup := String.isEmpty_iff.1 htext
        have hnone := (h.holds.of_isBlankText (by rw [hmarkup]; rfl)).1
        have hplain := plainTexts_of_renderAll_empty children hmarkup
        rw [hnone, hplain]
        exact ⟨_, .exact (.prose _)⟩
      · exact ⟨text, h.fallback _⟩

theorem exists_readAs_all (hn : NotesCall note) : ∀ is : List Inline, ∃ text,
    ReadAs (renderAll refs note is).value text (unreadAll refs note is) (plainTexts refs is)
      (areNamed refs is)
  | [] => ⟨"", .exact .nil⟩
  | i :: is => by
    obtain ⟨text, h⟩ := exists_readAs hn i
    obtain ⟨text', h'⟩ := exists_readAs_all hn is
    exact ⟨text ++ text', h.append h'⟩

end

end Inline

/-! ## What is dropped -/

namespace Document

/-- **What is lost where a run is dropped for its plain text.** Let the heading that opens a document
be left out since it repeats the title, or a paragraph give way to the outline. The markup of the run
that is dropped shows a text, and beside it the pieces that plain text leaves out. All characters of
the text that are not blank are characters of the title, or of the mark of the outline, in their
order; and these are all of them if every reference in the run has a text of its own. -/
theorem dropped_for_plainText (d : Document) (o : Options) (s : List String) (ws : List Warning) :
    let c : Context := ⟨.ofBlocks d.children, s, ws⟩
    let refs := c.references
    let m := Metadata.resolve d o refs
    (∀ i, m.excluded = some i → ∃ children text, d.children[i]? = some (.heading 1 children) ∧
      Markup.ReadAs (c.renderInlines children).1 text (Inline.unreadAll refs c.expander children)
        m.title (Inline.areNamed refs children)) ∧
    ∀ children, Inline.isOutline refs children →
      (Inline.renderParagraph refs c.expander children).value = Markup.outline ∧
      ∃ token text, Text.lowercase token = "[toc]" ∧
        Markup.ReadAs (c.renderInlines children).1 text (Inline.unreadAll refs c.expander children)
          token (Inline.areNamed refs children) := by
  intro c refs m
  have hn : Inline.NotesCall c.expander := Inline.notesCall_expandNote refs s
  refine ⟨fun i hi => ?_, fun children ho => ?_⟩
  · obtain ⟨title, hopens, htitle⟩ := excluded_eq_some_iff.1 hi
    obtain ⟨children, hheading, htrim⟩ := hopens.heading
    obtain ⟨text, h⟩ := @Inline.exists_readAs_all refs c.expander hn children
    refine ⟨children, text, hheading, h.of_visible_eq ?_⟩
    rw [← Text.visible_trimBlanks, htrim, htitle, Text.visible_trimBlanks]
  · obtain ⟨text, h⟩ := @Inline.exists_readAs_all refs c.expander hn children
    refine ⟨?_, _, text, ho, h.of_visible_eq (Text.visible_trimBlanks _).symm⟩
    rw [Inline.renderParagraph_eq, if_pos ho]
    rfl

/-- A heading with a formula of letters, and a mark of the outline that is not alone. -/
def waterTitle : Document :=
  ⟨[.heading 1 [.text "H", .subscript [.text "2"], .text "O"],
    .paragraph [.text "[toc]", .strike [.text "a"], .inlineMath "b", .image "c" ""]]⟩

/-- **Nodes that are shown are dropped with the title and with the mark of the outline.** -/
theorem waterTitle_dropped :
    let refs := References.ofBlocks waterTitle.children
    let pieces (children : List Inline) := Inline.unreadAll refs (expandNote refs []) children
    (Metadata.resolve waterTitle {} refs).title = "HO" ∧
      (Metadata.resolve waterTitle {} refs).excluded = some 0 ∧
      ¬ (∀ children, waterTitle.children[0]? = some (.heading 1 children) → pieces children = []) ∧
      (waterTitle.renderWith {} .builtin).typst =
        "#import \"styles/modern-tech.typ\": article\n\n" ++
        "#show: article.with(title: \"HO\", lang: \"zh\")\n\n" ++
        "#outline(title: auto, indent: auto)\n" ∧
      ¬ (∀ children, Inline.isOutline refs children → pieces children = []) := by
  intro refs pieces
  refine ⟨by decide +kernel, by decide +kernel, fun h => ?_, by decide +kernel, fun h => ?_⟩
  · exact absurd (h _ rfl) (by decide +kernel)
  · have houtline : Inline.isOutline refs
        [.text "[toc]", .strike [.text "a"], .inlineMath "b", .image "c" ""] := by
      decide +kernel
    exact absurd (h _ houtline) (by decide +kernel)

end Document

end Typeset
