/-
Brackets in rendered markup.

Every construct closes the brackets that it opens, with one exception: a note
loses the line feed of a hard break at the end of its body, and the backslash
of that break then protects the bracket that closes the note. So markup
without code and formulas leaves brackets open exactly where it expands a note
that is cut off so.
-/
import Typeset.Proofs.Render.Prose
import Typeset.Proofs.Render.Warnings
import Typeset.Render.Context

namespace Typeset

open Markup (Leaves)
open Reference (left)

/-! ## Notes -/

namespace References

variable {refs : References} {s opened : List String} {start : List Reference} {r : Reference}

theorem exists_of_note?_ofBlocks {blocks body : List Block} {identifier : String}
    (h : (ofBlocks blocks).note? identifier = some body) :
    ∃ i, .footnoteDefinition i body ∈ blocks := by
  rw [note?, notes_ofBlocks] at h
  obtain ⟨l₁, l₂, hl, -⟩ := List.lookup_eq_some_iff.1 h
  have hm : (Text.lowercase identifier, body) ∈ (blocks.filterMap noteEntry?).reverse := by
    simp [hl]
  obtain ⟨b, hb, he⟩ := List.mem_filterMap.1 (List.mem_reverse.1 hm)
  cases b <;> simp only [reduceCtorEq, noteEntry?, Option.some.injEq, Prod.mk.injEq] at he
  exact ⟨_, he.2 ▸ hb⟩

/-- The markup between the brackets of a note that is entered while others are open. -/
def noteText (refs : References) (opened : List String) (identifier : String) (body : List Block) :
    String :=
  Text.trimBlanks (Text.joinNonEmpty " "
    (Block.renderAll refs (expandNote refs (opened ++ [Text.lowercase identifier])) 0 body).value)

/-- A note that is entered while others are open, and whose text ends in a backslash that protects
the bracket behind it: what the backslash protected was trimmed off. -/
def Cuts (refs : References) (opened : List String) (identifier : String) : Prop :=
  ∃ body, refs.note? identifier = some body ∧ Text.lowercase identifier ∉ opened ∧
    Markup.endsProtecting (refs.noteText opened identifier body) = true

theorem cuts_iff {identifier : String} {body : List Block}
    (hn : refs.note? identifier = some body) (ho : Text.lowercase identifier ∉ opened) :
    refs.Cuts opened identifier ↔
      Markup.endsProtecting (refs.noteText opened identifier body) = true := by
  simp [Cuts, hn, ho]

/-- No note that is met is cut off. -/
def Whole (refs : References) (s : List String) (start : List Reference) : Prop :=
  ∀ opened identifier, refs.Met s start opened (.note identifier) → ¬ refs.Cuts opened identifier

theorem Met.of_mem {r₀ : Reference} (h : refs.Met s [r₀] opened r) (hr : r₀ ∈ start) :
    refs.Met s start opened r := by
  induction h with
  | start h => exact .start (List.mem_singleton.1 h ▸ hr)
  | inside _ hn ho hm ih => exact ih.inside hn ho hm

theorem Met.exists_mem (h : refs.Met s start opened r) :
    ∃ r₀ ∈ start, refs.Met s [r₀] opened r := by
  induction h with
  | start h => exact ⟨_, h, .start (by simp)⟩
  | inside _ hn ho hm ih =>
    obtain ⟨r₀, hr, h⟩ := ih
    exact ⟨r₀, hr, h.inside hn ho hm⟩

/-- Nothing is met from a link. -/
theorem Met.eq_link {identifier : String} (h : refs.Met s [.link identifier] opened r) :
    r = .link identifier := by
  induction h with
  | start h => exact List.mem_singleton.1 h
  | inside _ _ _ _ ih => cases ih

/-- From a note is met the note, and what is met inside it if it is entered. -/
theorem met_note {identifier : String} : refs.Met s [.note identifier] opened r ↔
    (opened = s ∧ r = .note identifier) ∨ ∃ body, refs.note? identifier = some body ∧
      Text.lowercase identifier ∉ s ∧
      refs.Met (s ++ [Text.lowercase identifier]) (Block.shownAll refs body) opened r := by
  constructor
  · intro h
    induction h with
    | start h => exact .inl ⟨rfl, List.mem_singleton.1 h⟩
    | inside _ hn ho hm ih =>
      obtain ⟨rfl, he⟩ | ⟨body, hn', ho', h⟩ := ih
      · cases he
        exact .inr ⟨_, hn, ho, .start hm⟩
      · exact .inr ⟨body, hn', ho', h.inside hn ho hm⟩
  · rintro (⟨rfl, rfl⟩ | ⟨body, hn, ho, h⟩)
    · exact .start (by simp)
    · exact h.enter (by simp) hn ho

theorem whole_iff_forall_note :
    refs.Whole s start ↔
      ∀ identifier, .note identifier ∈ start → refs.Whole s [.note identifier] := by
  constructor
  · exact fun h _ hm opened i hmet => h opened i (hmet.of_mem hm)
  · intro h opened i hmet
    obtain ⟨identifier | identifier, hm, hmet⟩ := hmet.exists_mem
    · cases hmet.eq_link
    · exact h identifier hm opened i hmet

theorem whole_note_closed {identifier : String} {body : List Block}
    (hn : refs.note? identifier = some body) (ho : Text.lowercase identifier ∉ s) :
    refs.Whole s [.note identifier] ↔ ¬ refs.Cuts s identifier ∧
      refs.Whole (s ++ [Text.lowercase identifier]) (Block.shownAll refs body) := by
  constructor
  · exact fun h => ⟨h s identifier (met_note.2 (.inl ⟨rfl, rfl⟩)), fun opened i hmet =>
      h opened i (met_note.2 (.inr ⟨body, hn, ho, hmet⟩))⟩
  · rintro ⟨hc, h⟩ opened i hmet
    obtain ⟨rfl, he⟩ | ⟨body', hn', -, hmet⟩ := met_note.1 hmet
    · cases he
      exact hc
    · obtain rfl : body = body' := by simpa [hn] using hn'
      exact h opened i hmet

theorem whole_note_dropped {identifier : String}
    (h : ∀ body, refs.note? identifier = some body → Text.lowercase identifier ∈ s) :
    refs.Whole s [.note identifier] := by
  intro opened i hmet
  obtain ⟨rfl, he⟩ | ⟨body, hn, ho, -⟩ := met_note.1 hmet
  · cases he
    rintro ⟨body, hn, ho, -⟩
    exact ho (h body hn)
  · exact absurd (h body hn) ho

theorem value_expandNote_closed {identifier : String} {body : List Block}
    (hn : refs.note? identifier = some body) (ho : Text.lowercase identifier ∉ s) :
    (expandNote refs s identifier).value =
      some ("#footnote[" ++ refs.noteText s identifier body ++ "]") := by
  rw [expandNote_closed hn ho]
  rfl

theorem leaves_noteBody {w : String → Nat} {key : String} {body : List Block}
    (hp : Block.areProse body = true) (hw : NotesLeave (expandNote refs (s ++ [key])) w) :
    Leaves (left w (Block.shownAll refs body)) (Text.joinNonEmpty " "
      (Block.renderAll refs (expandNote refs (s ++ [key])) 0 body).value) :=
  (Block.leaves_renderAll hw 0 body hp).joinNonEmpty fun _ => rfl

/-- The bracket that closes a note is protected where the text of the note ends so. -/
theorem exists_scan_noteText {w : String → Nat} {identifier : String} {body : List Block}
    (hp : Block.areProse body = true)
    (hw : NotesLeave (expandNote refs (s ++ [Text.lowercase identifier])) w) :
    ∃ reading, Markup.scan ("#footnote[" ++ refs.noteText s identifier body) = some reading ∧
      (reading.place = .escape ↔
        Markup.endsProtecting (refs.noteText s identifier body) = true) := by
  obtain ⟨place, hplace, hends⟩ := (leaves_noteBody hp hw).trimBlanks 1
  rw [← noteText] at hplace hends
  have hopen : ({} : Markup.Reading).through? "#footnote[".toList = some ⟨.markup [], 1⟩ := rfl
  refine ⟨⟨place, 1 + left w (Block.shownAll refs body)⟩, ?_, ?_⟩
  · rw [Markup.scan, String.toList_append, Markup.Reading.through?_append, hopen, Option.bind_some,
      hplace]
  · obtain ⟨he, rfl⟩ | ⟨he, opening, rfl⟩ := hends
    · simp [he]
    · simp [he]

/-- A note that is entered leaves open what its body does, and the bracket that closes it where it
is cut off. -/
theorem leaves_expandNote_closed {w : String → Nat} {identifier : String} {body : List Block}
    (hn : refs.note? identifier = some body) (ho : Text.lowercase identifier ∉ s)
    (hp : Block.areProse body = true)
    (hw : NotesLeave (expandNote refs (s ++ [Text.lowercase identifier])) w) :
    Leaves (left w (Block.shownAll refs body) +
        if Markup.endsProtecting (refs.noteText s identifier body) then 1 else 0)
      ((expandNote refs s identifier).value.getD "") := by
  rw [expandNote_closed hn ho]
  exact Markup.leaves_footnote (leaves_noteBody hp hw)

/-- **Notes leave brackets open exactly where a note is cut off** that is met from them. -/
theorem exists_notesLeave (hp : ∀ identifier body, refs.note? identifier = some body →
    Block.areProse body = true) (s : List String) :
    ∃ w, NotesLeave (expandNote refs s) w ∧
      ∀ start, left w start = 0 ↔ refs.Whole s start := by
  -- Entering a note leaves fewer that are closed.
  induction hc : (refs.closed s).length using Nat.strongRecOn generalizing s with
  | _ n ih =>
  have hnote : ∀ identifier, ∃ n, Leaves n ((expandNote refs s identifier).value.getD "") ∧
      (n = 0 ↔ refs.Whole s [.note identifier]) := by
    intro identifier
    cases hn : refs.note? identifier with
    | none =>
      refine ⟨0, ?_, by simpa using whole_note_dropped (by simp [hn])⟩
      simpa [expandNote_undefined hn] using Markup.leaves_empty
    | some body =>
      by_cases ho : Text.lowercase identifier ∈ s
      · refine ⟨0, ?_, by simpa using whole_note_dropped fun _ _ => ho⟩
        simpa [expandNote_open hn ho] using Markup.leaves_empty
      · have hlt := length_closed_append (mem_noteKeys_of_note? hn) ho
        obtain ⟨w, hw, hzero⟩ := ih _ (hc ▸ hlt) _ rfl
        refine ⟨_, leaves_expandNote_closed hn ho (hp _ _ hn) hw, ?_⟩
        rw [whole_note_closed hn ho, cuts_iff hn ho, ← hzero, Nat.add_eq_zero_iff, and_comm]
        simp
  choose w hw hzero using hnote
  refine ⟨w, hw, fun start => ?_⟩
  rw [Reference.left_eq_zero_iff, whole_iff_forall_note]
  simp only [hzero]

end References

/-! ## Contexts -/

namespace Context

/-- Two notes of which the second ends in a hard break. -/
def brokenNotes : List Block :=
  [.footnoteDefinition "whole" [.paragraph [.text "a"]],
   .footnoteDefinition "cut" [.paragraph [.text "a", .lineBreak]]]

theorem areProse_brokenNotes (identifier : String) (body : List Block)
    (h : .footnoteDefinition identifier body ∈ brokenNotes) : Block.areProse body = true := by
  simp only [brokenNotes, List.mem_cons, Block.footnoteDefinition.injEq, List.not_mem_nil,
    or_false] at h
  obtain ⟨-, rfl⟩ | ⟨-, rfl⟩ := h <;> rfl

theorem note?_brokenNotes :
    (References.ofBlocks brokenNotes).note? "whole" = some [.paragraph [.text "a"]] ∧
      (References.ofBlocks brokenNotes).note? "cut" =
        some [.paragraph [.text "a", .lineBreak]] := by
  have hne : (Text.lowercase "whole" == Text.lowercase "cut") = false := by decide +kernel
  simp [References.note?, brokenNotes, References.noteEntry?, List.lookup_cons, hne]

theorem noteText_brokenNotes :
    (References.ofBlocks brokenNotes).noteText [] "whole" [.paragraph [.text "a"]] = "a" ∧
      (References.ofBlocks brokenNotes).noteText [] "cut" [.paragraph [.text "a", .lineBreak]] =
        "a\\" := by
  decide +kernel

theorem renderInlines_brokenNotes :
    let c : Context := { references := .ofBlocks brokenNotes }
    (c.renderInlines [.footnoteReference "whole"]).1 = "#footnote[a]" ∧
      (c.renderInlines [.footnoteReference "cut"]).1 = "#footnote[a\\]" := by
  intro c
  have hvalue {identifier text : String} {body : List Block}
      (hn : c.references.note? identifier = some body)
      (ht : c.references.noteText [] identifier body = text) :
      (c.renderInlines [.footnoteReference identifier]).1 = "#footnote[" ++ text ++ "]" := by
    have h := References.value_expandNote_closed (s := []) hn (by simp)
    simp [renderInlines, record, expander, Inline.renderAll, Inline.render, c, h, ← ht]
  exact ⟨hvalue note?_brokenNotes.1 noteText_brokenNotes.1,
    hvalue note?_brokenNotes.2 noteText_brokenNotes.2⟩

/-- **Rendered markup is balanced exactly where no note that is met is cut off.** In blocks,
inlines and notes without code and formulas, whatever their texts and URLs are, a reader of the
markup never closes what is not open and ends in markup, neither inside a literal nor behind a
backslash that protects: so the bracket that closes a construct around inlines or blocks is not
protected. The one exception is the bracket that closes a note, where the note is cut off. -/
theorem brackets_balanced_iff (blocks : List Block)
    (hp : ∀ identifier body, .footnoteDefinition identifier body ∈ blocks →
      Block.areProse body = true) (s : List String) (ws : List Warning) :
    let c : Context := ⟨.ofBlocks blocks, s, ws⟩
    let refs := c.references
    (∀ b level, b.isProse = true → ∃ depth,
      Markup.scan ((c.renderBlock b level).1.getD "") = some ⟨.markup [], depth⟩ ∧
      (depth = 0 ↔ refs.Whole s (b.shown refs))) ∧
    (∀ is, Inline.areProse is = true → ∃ depth,
      Markup.scan (c.renderInlines is).1 = some ⟨.markup [], depth⟩ ∧
      (depth = 0 ↔ refs.Whole s (Inline.shownAll is))) ∧
    (∀ bs, Block.areProse bs = true → ∃ depth,
      Markup.scan (Text.joinNonEmpty "\n\n" (Block.renderAll refs c.expander 0 bs).value) =
        some ⟨.markup [], depth⟩ ∧
      (depth = 0 ↔ refs.Whole s (Block.shownAll refs bs))) ∧
    ∀ identifier body, refs.note? identifier = some body → Text.lowercase identifier ∉ s →
      (c.renderInline (.footnoteReference identifier)).1 =
        some ("#footnote[" ++ refs.noteText s identifier body ++ "]") ∧
      ∃ reading, Markup.scan ("#footnote[" ++ refs.noteText s identifier body) = some reading ∧
        (reading.place = .escape ↔ refs.Cuts s identifier) := by
  intro c refs
  have hprose : ∀ identifier body, refs.note? identifier = some body →
      Block.areProse body = true := by
    intro identifier body hn
    obtain ⟨i, hm⟩ := References.exists_of_note?_ofBlocks hn
    exact hp i body hm
  have hblank : Leaves 0 "\n\n" := fun _ => rfl
  obtain ⟨w, hw, hzero⟩ := References.exists_notesLeave hprose s
  refine ⟨fun b level hb => ⟨_, (Block.leaves_render hw level b hb).scan, hzero _⟩,
    fun is his => ⟨_, (Inline.leaves_renderAll hw is his).scan, hzero _⟩,
    fun bs hbs => ⟨_, ((Block.leaves_renderAll hw 0 bs hbs).joinNonEmpty hblank).scan, hzero _⟩,
    fun identifier body hn ho => ⟨?_, ?_⟩⟩
  · exact References.value_expandNote_closed hn ho
  · obtain ⟨w, hw, -⟩ := References.exists_notesLeave hprose (s ++ [Text.lowercase identifier])
    rw [References.cuts_iff hn ho]
    exact References.exists_scan_noteText (hprose _ _ hn) hw

theorem whole_brokenNotes :
    let refs := References.ofBlocks brokenNotes
    refs.Whole [] [.note "whole"] ∧ ¬ refs.Whole [] [.note "cut"] := by
  have h := (brackets_balanced_iff brokenNotes areProse_brokenNotes [] []).2.1
  obtain ⟨hwhole, hcut⟩ := renderInlines_brokenNotes
  constructor
  · obtain ⟨depth, hscan, hiff⟩ := h [.footnoteReference "whole"] rfl
    rw [hwhole] at hscan
    cases hscan
    exact hiff.1 rfl
  · obtain ⟨depth, hscan, hiff⟩ := h [.footnoteReference "cut"] rfl
    rw [hcut] at hscan
    cases hscan
    exact fun hw => absurd (hiff.2 hw) (by decide)

/-- **A bracket stays open behind a note that ends in a hard break.** -/
theorem brokenNotes_leave_bracket :
    let c : Context := { references := .ofBlocks brokenNotes }
    (∀ identifier body, .footnoteDefinition identifier body ∈ brokenNotes →
      Block.areProse body = true) ∧
    Inline.areProse [.footnoteReference "cut"] = true ∧
    Markup.scan (c.renderInlines [.footnoteReference "cut"]).1 = some ⟨.markup [], 1⟩ := by
  intro c
  refine ⟨areProse_brokenNotes, rfl, ?_⟩
  rw [renderInlines_brokenNotes.2]
  rfl

end Context

end Typeset
