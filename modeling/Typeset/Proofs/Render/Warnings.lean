/-
What a rendering warns about.

A reference is met with some notes open, and what is warned about there depends
on them alone. Which references are met is a matter of the notes: each note that
a reader can come to is entered at least once, since a way to it that enters no
note twice is never cut off. So a document's warnings tell exactly which of its
visible references lead nowhere, and whether its notes run in a circle.
-/
import Mathlib.Logic.Relation
import Typeset.Proofs.Render.Shown
import Typeset.Render

namespace Typeset

/-! ## The references that are met -/

/-- A reference met while notes are open: one of `start` while those of `s` are, or one in a note
that was entered from a reference met before. -/
inductive References.Met (refs : References) (s : List String) (start : List Reference) :
    List String → Reference → Prop
  | start {r : Reference} : r ∈ start → Met refs s start s r
  | inside {opened : List String} {id : String} {body : List Block} {r : Reference} :
      Met refs s start opened (.note id) → refs.note? id = some body →
      Text.lowercase id ∉ opened → r ∈ Block.shownAll refs body →
      Met refs s start (opened ++ [Text.lowercase id]) r

/-- What is warned about at a reference itself, met while notes are open. -/
inductive Reference.Warns (refs : References) (opened : List String) : Reference → Warning → Prop
  | link {id : String} : refs.url? id = none → Warns refs opened (.link id) (.unresolvedLink id)
  | undefined {id : String} :
      refs.note? id = none → Warns refs opened (.note id) (.unresolvedFootnote id)
  | recursive {id : String} {body : List Block} : refs.note? id = some body →
      Text.lowercase id ∈ opened → Warns refs opened (.note id) (.recursiveFootnote id)

namespace References

variable {refs : References} {s opened : List String} {start : List Reference} {r : Reference}

theorem Met.enter {id : String} {body : List Block} (hid : .note id ∈ start)
    (hn : refs.note? id = some body) (ho : Text.lowercase id ∉ s)
    (h : refs.Met (s ++ [Text.lowercase id]) (Block.shownAll refs body) opened r) :
    refs.Met s start opened r := by
  induction h with
  | start hr => exact (Met.start hid).inside hn ho hr
  | inside _ hn ho hr ih => exact ih.inside hn ho hr

theorem warnings_expandNote_closed {id : String} {body : List Block}
    (hn : refs.note? id = some body) (ho : Text.lowercase id ∉ s) :
    (expandNote refs s id).warnings = (Block.shownAll refs body).flatMap
      (Reference.warnings refs (expandNote refs (s ++ [Text.lowercase id]))) := by
  rw [expandNote_closed hn ho, Logged.warnings_bind, Block.warnings_renderAll]
  simp

theorem mem_warnings_of_warns {w : Warning} (h : r.Warns refs s w) :
    w ∈ r.warnings refs (expandNote refs s) := by
  cases h with
  | link hu => simp [Reference.warnings, hu]
  | undefined hn => simp [Reference.warnings, expandNote_undefined hn]
  | recursive hn ho => simp [Reference.warnings, expandNote_open hn ho]

/-- A warning at a reference that is met stands among the warnings. -/
theorem Met.mem_warnings {w : Warning} (h : refs.Met s start opened r)
    (hw : w ∈ r.warnings refs (expandNote refs opened)) :
    w ∈ start.flatMap (Reference.warnings refs (expandNote refs s)) := by
  induction h with
  | start hr => exact List.mem_flatMap.2 ⟨_, hr, hw⟩
  | inside _ hn ho hr ih =>
    refine ih ?_
    simp only [Reference.warnings]
    rw [warnings_expandNote_closed hn ho]
    exact List.mem_flatMap.2 ⟨_, hr, hw⟩

/-- A warning among the warnings was given at a reference that is met. -/
theorem exists_met_of_mem_warnings {w : Warning}
    (h : w ∈ start.flatMap (Reference.warnings refs (expandNote refs s))) :
    ∃ opened r, refs.Met s start opened r ∧ r.Warns refs opened w := by
  -- Entering a note leaves fewer that are closed.
  induction hc : (refs.closed s).length using Nat.strongRecOn generalizing s start with
  | _ n ih =>
  obtain ⟨r, hr, hw⟩ := List.mem_flatMap.1 h
  cases r with
  | link id =>
    cases hu : refs.url? id with
    | none =>
      obtain rfl : w = .unresolvedLink id := by simpa [Reference.warnings, hu] using hw
      exact ⟨s, _, .start hr, .link hu⟩
    | some url => simp [Reference.warnings, hu] at hw
  | note id =>
    simp only [Reference.warnings] at hw
    cases hn : refs.note? id with
    | none =>
      obtain rfl : w = .unresolvedFootnote id := by simpa [expandNote_undefined hn] using hw
      exact ⟨s, _, .start hr, .undefined hn⟩
    | some body =>
      by_cases ho : Text.lowercase id ∈ s
      · obtain rfl : w = .recursiveFootnote id := by simpa [expandNote_open hn ho] using hw
        exact ⟨s, _, .start hr, .recursive hn ho⟩
      · rw [warnings_expandNote_closed hn ho] at hw
        have hlt := length_closed_append (mem_noteKeys_of_note? hn) ho
        obtain ⟨opened, r', hm, hd⟩ := ih _ (hc ▸ hlt) hw rfl
        exact ⟨opened, r', hm.enter hr hn ho, hd⟩

/-- **The warnings are those at the references that are met.** -/
theorem mem_warnings_iff {w : Warning} :
    w ∈ start.flatMap (Reference.warnings refs (expandNote refs s)) ↔
      ∃ opened r, refs.Met s start opened r ∧ r.Warns refs opened w :=
  ⟨exists_met_of_mem_warnings, fun ⟨_, _, hm, hd⟩ => hm.mem_warnings (mem_warnings_of_warns hd)⟩

/-! ## The graph of notes -/

/-- The body of the note `k` shows a reference to the note `k'`. -/
def Cites (refs : References) (k k' : String) : Prop :=
  ∃ body id, refs.notes.lookup k = some body ∧ .note id ∈ Block.shownAll refs body ∧
    Text.lowercase id = k'

/-- A note that is open was entered from a reference that was met while it was closed. -/
theorem Met.origin (h : refs.Met [] start opened r) {k : String} (hk : k ∈ opened) :
    ∃ before id, refs.Met [] start before (.note id) ∧ Text.lowercase id = k ∧ k ∉ before := by
  induction h with
  | start => simp at hk
  | @inside opened id _ _ hm _ ho _ ih =>
    rcases List.mem_append.1 hk with hk | hk
    · exact ih hk
    · rw [List.mem_singleton] at hk
      exact ⟨opened, id, hm, hk.symm, hk ▸ ho⟩

/-- Open notes lead to the references that are met. -/
theorem Met.transGen (h : refs.Met [] start opened r) {k id : String} (hk : k ∈ opened)
    (hr : r = .note id) : Relation.TransGen refs.Cites k (Text.lowercase id) := by
  induction h generalizing id with
  | start => simp at hk
  | @inside opened id' body r _ hn _ hm ih =>
    have hcites : refs.Cites (Text.lowercase id') (Text.lowercase id) :=
      ⟨body, id, hn, hr ▸ hm, rfl⟩
    rcases List.mem_append.1 hk with hk | hk
    · exact (ih hk rfl).tail hcites
    · rw [List.mem_singleton] at hk
      exact hk ▸ .single hcites

/-- A reference to an open note is met. -/
def MeetsOpen (refs : References) (start : List Reference) : Prop :=
  ∃ opened id, refs.Met [] start opened (.note id) ∧ refs.note? id ≠ none ∧
    Text.lowercase id ∈ opened

/-- Along the citations of a note that is met closed, an open note is met or the note stays open. -/
theorem Met.follow {id k : String} (h : refs.Met [] start opened (.note id))
    (ho : Text.lowercase id ∉ opened) (hk : Relation.TransGen refs.Cites (Text.lowercase id) k) :
    refs.MeetsOpen start ∨ ∃ later id', refs.Met [] start later (.note id') ∧
      Text.lowercase id' = k ∧ Text.lowercase id ∈ later := by
  induction hk with
  | single hc =>
    obtain ⟨body, id', hn, hm, rfl⟩ := hc
    exact .inr ⟨_, id', h.inside hn ho hm, rfl, by simp⟩
  | tail _ hc ih =>
    obtain hopen | ⟨later, id₁, h₁, rfl, hl⟩ := ih
    · exact .inl hopen
    obtain ⟨body, id₂, hn, hm, rfl⟩ := hc
    have hn : refs.note? id₁ = some body := hn
    by_cases ho₁ : Text.lowercase id₁ ∈ later
    · exact .inl ⟨later, id₁, h₁, by simp [hn], ho₁⟩
    · exact .inr ⟨_, id₂, h₁.inside hn ho₁ hm, rfl, by simp [hl]⟩

/-- **An open note is met exactly where a circle of notes is reached.** -/
theorem meetsOpen_iff : refs.MeetsOpen start ↔ ∃ opened id, refs.Met [] start opened (.note id) ∧
    Relation.TransGen refs.Cites (Text.lowercase id) (Text.lowercase id) := by
  constructor
  · rintro ⟨opened, id, h, -, ho⟩
    exact ⟨opened, id, h, h.transGen ho rfl⟩
  · rintro ⟨opened, id, h, hcycle⟩
    -- The first time that a note of the circle is met, it is closed.
    obtain ⟨before, id, h, hk, ho⟩ : ∃ before id', refs.Met [] start before (.note id') ∧
        Text.lowercase id' = Text.lowercase id ∧ Text.lowercase id ∉ before := by
      by_cases ho : Text.lowercase id ∈ opened
      · exact h.origin ho
      · exact ⟨opened, id, h, rfl, ho⟩
    rw [← hk] at ho hcycle
    obtain hopen | ⟨later, id', h', hk', hl⟩ := h.follow ho hcycle
    · exact hopen
    · obtain ⟨-, ⟨body, -, hn, -⟩, -⟩ := Relation.TransGen.head'_iff.1 hcycle
      have hn : refs.note? id' = some body := by rw [note?, hk', hn]
      exact ⟨later, id', h', by simp [hn], hk' ▸ hl⟩

end References

/-! ## Documents -/

namespace Document

variable {d : Document} {o : Options} {r : Reference}

/-- The references that a reader can come to: those shown in a root block that is not left out as
the title, and those shown in the note that such a reference leads to. -/
inductive Visible (d : Document) (o : Options) : Reference → Prop
  | body {i : Nat} {b : Block} {r : Reference} : d.children[i]? = some b →
      (Metadata.resolve d o (.ofBlocks d.children)).excluded ≠ some i →
      r ∈ b.shown (.ofBlocks d.children) → Visible d o r
  | note {id : String} {body : List Block} {r : Reference} : Visible d o (.note id) →
      (References.ofBlocks d.children).note? id = some body →
      r ∈ Block.shownAll (.ofBlocks d.children) body → Visible d o r

/-- The references in the body of the file. -/
def shownBody (d : Document) (o : Options) : List Reference :=
  let refs := References.ofBlocks d.children
  Block.shownAll refs (d.bodyBlocks (Metadata.resolve d o refs))

theorem mem_shownBody : r ∈ d.shownBody o ↔ ∃ i b, d.children[i]? = some b ∧
    (Metadata.resolve d o (.ofBlocks d.children)).excluded ≠ some i ∧
    r ∈ b.shown (.ofBlocks d.children) := by
  simp only [shownBody, Block.mem_shownAll, bodyBlocks]
  cases (Metadata.resolve d o (References.ofBlocks d.children)).excluded with
  | none =>
    constructor
    · rintro ⟨b, hb, hr⟩
      obtain ⟨i, hi⟩ := List.mem_iff_getElem?.1 hb
      exact ⟨i, b, hi, by simp, hr⟩
    · rintro ⟨i, b, hi, -, hr⟩
      exact ⟨b, List.mem_of_getElem? hi, hr⟩
  | some index =>
    constructor
    · rintro ⟨b, hb, hr⟩
      obtain ⟨i, hne, hi⟩ := List.mem_eraseIdx_iff_getElem?.1 hb
      exact ⟨i, b, hi, by simpa using Ne.symm hne, hr⟩
    · rintro ⟨i, b, hi, hne, hr⟩
      exact ⟨b, List.mem_eraseIdx_iff_getElem?.2 ⟨i, fun h => hne (by rw [h]), hi⟩, hr⟩

/-- **What a reader can come to is met**, whatever notes are cut off on other ways to it. -/
theorem visible_iff : d.Visible o r ↔
    ∃ opened, (References.ofBlocks d.children).Met [] (d.shownBody o) opened r := by
  constructor
  · intro h
    induction h with
    | body hi hne hr => exact ⟨[], .start (mem_shownBody.2 ⟨_, _, hi, hne, hr⟩)⟩
    | @note id body r _ hn hr ih =>
      obtain ⟨opened, h⟩ := ih
      by_cases ho : Text.lowercase id ∈ opened
      · -- The note is open, so it was entered before, and its body is the same.
        obtain ⟨before, id', h', hk, ho'⟩ := h.origin ho
        rw [← hk] at ho'
        have hn' : (References.ofBlocks d.children).note? id' = some body := by
          rw [References.note?, hk]
          exact hn
        exact ⟨_, h'.inside hn' ho' hr⟩
      · exact ⟨_, h.inside hn ho hr⟩
  · rintro ⟨opened, h⟩
    induction h with
    | start hr =>
      obtain ⟨i, b, hi, hne, hr⟩ := mem_shownBody.1 hr
      exact .body hi hne hr
    | inside _ hn _ hr ih => exact .note ih hn hr

/-- The warnings of a document: that about the style, and those at the references that are met. -/
theorem mem_warnings_renderWith {t : TemplateRegistry} {w : Warning} :
    w ∈ (d.renderWith o t).warnings ↔ w ∈ (t.styleWarning o.style).warnings ∨
      ∃ opened r, (References.ofBlocks d.children).Met [] (d.shownBody o) opened r ∧
        r.Warns (.ofBlocks d.children) opened w := by
  rw [← References.mem_warnings_iff]
  simp only [renderWith, renderBody, Logged.warnings_bind, Logged.warnings_pure, List.append_nil,
    List.mem_append, Block.warnings_renderAll, shownBody]

end Document

theorem TemplateRegistry.supports_eq_false {t : TemplateRegistry} {style : String} :
    t.supports style = false ↔ ∀ template ∈ t.templates, template.id ≠ style := by
  simp [supports, get?]

theorem TemplateRegistry.warnings_styleWarning (t : TemplateRegistry) (style : Option String) :
    (t.styleWarning style).warnings =
      ((style.filter fun s => !t.supports s).map Warning.unknownStyle).toList := by
  cases style with
  | none => rfl
  | some s => cases h : t.supports s <;> simp [styleWarning, h, Option.filter]

theorem TemplateRegistry.mem_warnings_styleWarning {t : TemplateRegistry} {style : Option String}
    {w : Warning} : w ∈ (t.styleWarning style).warnings ↔
      ∃ s, w = .unknownStyle s ∧ style = some s ∧ ∀ template ∈ t.templates, template.id ≠ s := by
  rw [t.warnings_styleWarning]
  simp only [Option.mem_toList, Option.map_eq_some_iff, Option.filter_eq_some_iff,
    Bool.not_eq_true', supports_eq_false]
  constructor
  · rintro ⟨s, h, rfl⟩
    exact ⟨s, rfl, h⟩
  · rintro ⟨s, rfl, h⟩
    exact ⟨s, h, rfl⟩

namespace Document

variable {d : Document} {o : Options} {t : TemplateRegistry}

theorem unresolvedFootnote_mem_warnings {id : String} :
    .unresolvedFootnote id ∈ (d.renderWith o t).warnings ↔
      d.Visible o (.note id) ∧ (References.ofBlocks d.children).note? id = none := by
  rw [mem_warnings_renderWith, TemplateRegistry.mem_warnings_styleWarning, visible_iff]
  constructor
  · rintro (⟨_, h, -⟩ | ⟨opened, _, hm, hw⟩)
    · cases h
    · cases hw with
      | undefined hn => exact ⟨⟨opened, hm⟩, hn⟩
  · rintro ⟨⟨opened, hm⟩, hn⟩
    exact .inr ⟨opened, _, hm, .undefined hn⟩

theorem unresolvedLink_mem_warnings {id : String} :
    .unresolvedLink id ∈ (d.renderWith o t).warnings ↔
      d.Visible o (.link id) ∧ (References.ofBlocks d.children).url? id = none := by
  rw [mem_warnings_renderWith, TemplateRegistry.mem_warnings_styleWarning, visible_iff]
  constructor
  · rintro (⟨_, h, -⟩ | ⟨opened, _, hm, hw⟩)
    · cases h
    · cases hw with
      | link hu => exact ⟨⟨opened, hm⟩, hu⟩
  · rintro ⟨⟨opened, hm⟩, hu⟩
    exact .inr ⟨opened, _, hm, .link hu⟩

theorem exists_recursiveFootnote_mem_warnings :
    (∃ id, .recursiveFootnote id ∈ (d.renderWith o t).warnings) ↔
      (References.ofBlocks d.children).MeetsOpen (d.shownBody o) := by
  simp only [mem_warnings_renderWith, TemplateRegistry.mem_warnings_styleWarning]
  constructor
  · rintro ⟨id, ⟨_, h, -⟩ | ⟨opened, _, hm, hw⟩⟩
    · cases h
    · cases hw with
      | recursive hn ho => exact ⟨opened, id, hm, by simp [hn], ho⟩
  · rintro ⟨opened, id, hm, hn, ho⟩
    obtain ⟨body, hn⟩ := Option.ne_none_iff_exists'.1 hn
    exact ⟨id, .inr ⟨opened, _, hm, .recursive hn ho⟩⟩

theorem unknownStyle_mem_warnings {s : String} :
    .unknownStyle s ∈ (d.renderWith o t).warnings ↔
      o.style = some s ∧ ∀ template ∈ t.templates, template.id ≠ s := by
  rw [mem_warnings_renderWith, TemplateRegistry.mem_warnings_styleWarning]
  constructor
  · rintro (⟨_, h, hs⟩ | ⟨_, _, -, hw⟩)
    · cases h
      exact hs
    · cases hw
  · exact fun hs => .inl ⟨s, rfl, hs⟩

theorem head?_warnings_of_unknownStyle {s : String} (hs : o.style = some s)
    (ht : ∀ template ∈ t.templates, template.id ≠ s) :
    (d.renderWith o t).warnings.head? = some (.unknownStyle s) := by
  have h := TemplateRegistry.supports_eq_false.2 ht
  simp [renderWith, hs, TemplateRegistry.warnings_styleWarning, Option.filter, h]

/-- **A document's warnings tell exactly what leads nowhere.** A footnote or link is reported as
unresolved if and only if a reader can come to a reference to it and no root block defines it, some
footnote is reported as recursive if and only if a reader can come to a circle of footnotes, and a
style is reported if and only if it was asked for and no template has it. That warning comes
first. -/
theorem warnings_exact (d : Document) (o : Options) (t : TemplateRegistry) :
    let refs := References.ofBlocks d.children
    let warnings := (d.renderWith o t).warnings
    (∀ id, .unresolvedFootnote id ∈ warnings ↔ d.Visible o (.note id) ∧ ∀ i children,
      .footnoteDefinition i children ∈ d.children → Text.lowercase i ≠ Text.lowercase id) ∧
    (∀ id, .unresolvedLink id ∈ warnings ↔ d.Visible o (.link id) ∧ ∀ i url,
      .linkDefinition i url ∈ d.children → Text.lowercase i ≠ Text.lowercase id) ∧
    ((∃ id, .recursiveFootnote id ∈ warnings) ↔ ∃ id, d.Visible o (.note id) ∧
      Relation.TransGen refs.Cites (Text.lowercase id) (Text.lowercase id)) ∧
    (∀ s, .unknownStyle s ∈ warnings ↔
      o.style = some s ∧ ∀ template ∈ t.templates, template.id ≠ s) ∧
    ∀ s, .unknownStyle s ∈ warnings → warnings.head? = some (.unknownStyle s) := by
  intro refs warnings
  refine ⟨fun id => ?_, fun id => ?_, ?_, fun s => unknownStyle_mem_warnings, fun s hs => ?_⟩
  · rw [unresolvedFootnote_mem_warnings, References.note?_ofBlocks_eq_none]
  · rw [unresolvedLink_mem_warnings, References.url?_ofBlocks_eq_none]
  · rw [exists_recursiveFootnote_mem_warnings, References.meetsOpen_iff]
    constructor
    · rintro ⟨opened, id, hm, hcycle⟩
      exact ⟨id, visible_iff.2 ⟨opened, hm⟩, hcycle⟩
    · rintro ⟨id, hv, hcycle⟩
      obtain ⟨opened, hm⟩ := visible_iff.1 hv
      exact ⟨opened, id, hm, hcycle⟩
  · obtain ⟨hs, ht⟩ := unknownStyle_mem_warnings.1 hs
    exact head?_warnings_of_unknownStyle hs ht

end Document

end Typeset
