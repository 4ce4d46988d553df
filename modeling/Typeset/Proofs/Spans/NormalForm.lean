/-
One pass is enough.

Where spans are cut, no text outside superscripts and subscripts has a span
left, and such a document is one that cutting does not change.
-/
import Typeset.Proofs.Spans.Traversal

namespace Typeset

namespace Spans

theorem not_hasSpan_empty : ¬ HasSpan "" := by
  rintro ⟨before, d, after, h, -⟩
  simp at h

theorem looseTexts_node (d : Char) (content : List Char) : (node d content).looseTexts = [] := by
  unfold node
  split <;> rfl

/-- The texts that stand beside the spans of a text have none. -/
theorem looseTexts_splitText (value : String) :
    ∀ v ∈ Inline.looseTextsAll (splitText value), ¬ HasSpan v := by
  intro v hv
  obtain ⟨i, hi, hv⟩ := Inline.mem_looseTextsAll.1 hv
  rcases mem_splitText hi with ⟨piece, rfl, hp⟩ | ⟨d, content, rfl, -⟩
  · rw [Inline.looseTexts, List.mem_singleton] at hv
    rwa [hv]
  · rw [looseTexts_node] at hv
    cases hv

end Spans

namespace Document

theorem looseTexts_splitSpans (d : Document) :
    ∀ value ∈ d.splitSpans.looseTexts, ¬ Spans.HasSpan value := by
  rw [splitSpans_eq_replaceTexts]
  exact looseTexts_replaceTexts Spans.not_hasSpan_empty Spans.looseTexts_splitText

theorem splitSpans_of_no_span {d : Document} (h : ∀ value ∈ d.looseTexts, ¬ Spans.HasSpan value) :
    d.splitSpans = d := by
  rw [splitSpans_eq_replaceTexts]
  exact replaceTexts_eq_self fun value hv hne => Spans.splitText_of_not_hasSpan hne (h value hv)

/-- **One pass reaches the normal form.** In no heading, paragraph or cell, however deep, and in no
inline but a superscript or subscript does a text have a span left, and a second pass changes
nothing. The documents without such a text are all that a pass leaves as they are. -/
theorem splitSpans_normal (d : Document) :
    (∀ value ∈ d.splitSpans.looseTexts, ¬ Spans.HasSpan value) ∧
    d.splitSpans.splitSpans = d.splitSpans ∧
    (d.splitSpans = d ↔ ∀ value ∈ d.looseTexts, ¬ Spans.HasSpan value) := by
  refine ⟨d.looseTexts_splitSpans, splitSpans_of_no_span d.looseTexts_splitSpans, ?_,
    splitSpans_of_no_span⟩
  intro h
  rw [← h]
  exact d.looseTexts_splitSpans

end Document

end Typeset
