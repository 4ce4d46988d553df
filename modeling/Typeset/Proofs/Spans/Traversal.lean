/-
Where a document is cut.

`replaceTexts` goes through a whole document and puts nodes of a text's own in
the place of each text leaf that stands in a heading, a paragraph or a cell,
outside superscripts and subscripts. Cutting looks at less, since it passes by
runs without a mark or a container, and changes the same: it is `replaceTexts`
with the pieces of each text.
-/
import Typeset.Proofs.Spans.Cutting

namespace Typeset

/-! ## Text leaves -/

mutual

/-- The text leaves of an inline that are in no superscript or subscript. -/
def Inline.looseTexts : Inline → List String
  | .text value => [value]
  | .strong children | .emphasis children | .strike children | .highlight children
  | .link _ children | .linkReference _ _ children => Inline.looseTextsAll children
  | .subscript _ | .superscript _ | .inlineCode _ | .inlineMath _ | .footnoteReference _
  | .image _ _ | .lineBreak => []

def Inline.looseTextsAll : List Inline → List String
  | [] => []
  | i :: is => i.looseTexts ++ Inline.looseTextsAll is

end

theorem Inline.looseTextsAll_append (is js : List Inline) :
    looseTextsAll (is ++ js) = looseTextsAll is ++ looseTextsAll js := by
  induction is with
  | nil => rfl
  | cons i is ih => simp [looseTextsAll, ih]

theorem Inline.mem_looseTextsAll {is : List Inline} {v : String} :
    v ∈ looseTextsAll is ↔ ∃ i ∈ is, v ∈ i.looseTexts := by
  induction is with
  | nil => simp [looseTextsAll]
  | cons i is ih => simp [looseTextsAll, ih]

mutual

/-- The text leaves of a block that are in no superscript or subscript. -/
def Block.looseTexts : Block → List String
  | .heading _ children | .paragraph children => Inline.looseTextsAll children
  | .footnoteDefinition _ children | .blockquote children => Block.looseTextsAll children
  | .list _ items => Block.looseTextsItems items
  | .table _ rows => rows.flatten.flatMap Inline.looseTextsAll
  | .frontmatter _ | .linkDefinition _ _ | .codeBlock _ _ | .thematicBreak | .mathBlock _ => []

def Block.looseTextsAll : List Block → List String
  | [] => []
  | b :: bs => b.looseTexts ++ Block.looseTextsAll bs

def Block.looseTextsItems : List (List Block) → List String
  | [] => []
  | item :: items => Block.looseTextsAll item ++ Block.looseTextsItems items

end

/-- The text leaves of a document that are in no superscript or subscript. -/
def Document.looseTexts (d : Document) : List String := Block.looseTextsAll d.children

mutual

/-- An inline with `f` of each text in the place of its leaf, unless the text is empty or in a
superscript or subscript. -/
def Inline.replaceTexts (f : String → List Inline) : Inline → List Inline
  | .text value => if value = "" then [.text value] else f value
  | .strong children => [.strong (Inline.replaceAll f children)]
  | .emphasis children => [.emphasis (Inline.replaceAll f children)]
  | .strike children => [.strike (Inline.replaceAll f children)]
  | .highlight children => [.highlight (Inline.replaceAll f children)]
  | .link url children => [.link url (Inline.replaceAll f children)]
  | .linkReference identifier label children =>
    [.linkReference identifier label (Inline.replaceAll f children)]
  | .subscript children => [.subscript children]
  | .superscript children => [.superscript children]
  | .inlineCode value => [.inlineCode value]
  | .inlineMath value => [.inlineMath value]
  | .footnoteReference identifier => [.footnoteReference identifier]
  | .image url alt => [.image url alt]
  | .lineBreak => [.lineBreak]

def Inline.replaceAll (f : String → List Inline) : List Inline → List Inline
  | [] => []
  | i :: is => i.replaceTexts f ++ Inline.replaceAll f is

end

mutual

/-- A block with `f` of each text in the place of its leaf, unless the text is empty or in a
superscript or subscript. -/
def Block.replaceTexts (f : String → List Inline) : Block → Block
  | .heading depth children => .heading depth (Inline.replaceAll f children)
  | .paragraph children => .paragraph (Inline.replaceAll f children)
  | .footnoteDefinition identifier children =>
    .footnoteDefinition identifier (Block.replaceAll f children)
  | .blockquote children => .blockquote (Block.replaceAll f children)
  | .list ordered items => .list ordered (Block.replaceItems f items)
  | .table align rows => .table align (rows.map fun row => row.map (Inline.replaceAll f))
  | .frontmatter value => .frontmatter value
  | .linkDefinition identifier url => .linkDefinition identifier url
  | .codeBlock lang value => .codeBlock lang value
  | .thematicBreak => .thematicBreak
  | .mathBlock value => .mathBlock value

def Block.replaceAll (f : String → List Inline) : List Block → List Block
  | [] => []
  | b :: bs => b.replaceTexts f :: Block.replaceAll f bs

def Block.replaceItems (f : String → List Inline) : List (List Block) → List (List Block)
  | [] => []
  | item :: items => Block.replaceAll f item :: Block.replaceItems f items

end

/-- A document with `f` of each text in the place of its leaf. -/
def Document.replaceTexts (f : String → List Inline) (d : Document) : Document :=
  ⟨Block.replaceAll f d.children⟩

/-! ## Cutting, as replacing -/

namespace Spans

/-- The opening delimiter of a span is a mark. -/
theorem isMarked_of_hasSpan {value : String} (h : HasSpan value) : isMarked value = true := by
  obtain ⟨before, d, after, hv, hd, -⟩ := h
  simp [isMarked, hv, isDelimiter_iff.2 hd]

theorem splitText_of_not_isMarked {value : String} (hne : value ≠ "") (h : ¬ isMarked value) :
    splitText value = [.text value] :=
  splitText_of_not_hasSpan hne (mt isMarked_of_hasSpan h)

end Spans

namespace Inline

theorem splitSpans_of_needsVisit {i : Inline} (h : i.needsVisit = false) : i.splitSpans = [i] := by
  cases i with
  | text value =>
    have hm : Spans.isMarked value = false := h
    simp [splitSpans, hm]
  | strong | emphasis | strike | highlight | link | linkReference => cases h
  | subscript | superscript | inlineCode | inlineMath | footnoteReference | image | lineBreak =>
    rw [splitSpans]

theorem splitEach_of_needsVisit {is : List Inline} (h : is.any needsVisit = false) :
    splitEach is = is := by
  induction is with
  | nil => rfl
  | cons i is ih =>
    simp only [List.any_cons, Bool.or_eq_false_iff] at h
    rw [splitEach, splitSpans_of_needsVisit h.1, ih h.2, List.singleton_append]

/-- Passing a run by changes nothing. -/
theorem splitAll_eq_splitEach (is : List Inline) : splitAll is = splitEach is := by
  cases is with
  | nil => rfl
  | cons i is =>
    by_cases h : (i :: is).any needsVisit
    · rw [splitAll, if_pos h, splitEach]
    · rw [splitAll, if_neg h, splitEach_of_needsVisit (by simpa using h)]

mutual

theorem splitSpans_eq_replaceTexts : ∀ i : Inline, i.splitSpans = i.replaceTexts splitText
  | .text value => by
    by_cases hne : value = ""
    · simp [splitSpans, replaceTexts, hne, Spans.isMarked]
    · by_cases hm : Spans.isMarked value = true
      · simp [splitSpans, replaceTexts, hne, hm]
      · simp [splitSpans, replaceTexts, hne, hm, Spans.splitText_of_not_isMarked hne hm]
  | .strong children | .emphasis children | .strike children | .highlight children
  | .link _ children | .linkReference _ _ children => by
    rw [splitSpans, replaceTexts, splitAll_eq_splitEach, splitEach_eq_replaceAll children]
  | .subscript _ | .superscript _ | .inlineCode _ | .inlineMath _ | .footnoteReference _
  | .image _ _ | .lineBreak => by
    rw [splitSpans, replaceTexts]

theorem splitEach_eq_replaceAll : ∀ is : List Inline, splitEach is = replaceAll splitText is
  | [] => rfl
  | i :: is => by
    rw [splitEach, replaceAll, splitSpans_eq_replaceTexts i, splitEach_eq_replaceAll is]

end

theorem splitAll_eq_replaceAll : splitAll = replaceAll splitText :=
  funext fun is => (splitAll_eq_splitEach is).trans (splitEach_eq_replaceAll is)

end Inline

namespace Block

mutual

theorem splitSpans_eq_replaceTexts : ∀ b : Block, b.splitSpans = b.replaceTexts splitText
  | .heading _ _ | .paragraph _ | .table _ _ => by
    rw [splitSpans, replaceTexts, Inline.splitAll_eq_replaceAll]
  | .footnoteDefinition _ children | .blockquote children => by
    rw [splitSpans, replaceTexts, splitAll_eq_replaceAll children]
  | .list _ items => by
    rw [splitSpans, replaceTexts, splitItems_eq_replaceItems items]
  | .frontmatter _ | .linkDefinition _ _ | .codeBlock _ _ | .thematicBreak | .mathBlock _ => by
    rw [splitSpans, replaceTexts]

theorem splitAll_eq_replaceAll : ∀ bs : List Block, splitAll bs = replaceAll splitText bs
  | [] => rfl
  | b :: bs => by
    rw [splitAll, replaceAll, splitSpans_eq_replaceTexts b, splitAll_eq_replaceAll bs]

theorem splitItems_eq_replaceItems : ∀ items : List (List Block),
    splitItems items = replaceItems splitText items
  | [] => rfl
  | item :: items => by
    rw [splitItems, replaceItems, splitAll_eq_replaceAll item, splitItems_eq_replaceItems items]

end

end Block

/-- **Cutting goes through the whole document**, as far as what it changes tells. -/
theorem Document.splitSpans_eq_replaceTexts (d : Document) :
    d.splitSpans = d.replaceTexts splitText := by
  rw [splitSpans, replaceTexts, Block.splitAll_eq_replaceAll]

/-! ## What replacing does -/

section

variable {f : String → List Inline}

mutual

theorem Inline.replaceTexts_eq_self : ∀ i : Inline,
    (∀ value ∈ i.looseTexts, value ≠ "" → f value = [.text value]) → i.replaceTexts f = [i]
  | .text value, h => by
    rw [replaceTexts]
    split
    · rfl
    · rename_i hne
      exact h value (by simp [looseTexts]) hne
  | .strong children, h | .emphasis children, h | .strike children, h | .highlight children, h
  | .link _ children, h | .linkReference _ _ children, h => by
    rw [looseTexts] at h
    rw [replaceTexts, Inline.replaceAll_eq_self children h]
  | .subscript _, _ | .superscript _, _ | .inlineCode _, _ | .inlineMath _, _
  | .footnoteReference _, _ | .image _ _, _ | .lineBreak, _ => by
    rw [replaceTexts]

theorem Inline.replaceAll_eq_self : ∀ is : List Inline,
    (∀ value ∈ looseTextsAll is, value ≠ "" → f value = [.text value]) → replaceAll f is = is
  | [], _ => rfl
  | i :: is, h => by
    simp only [looseTextsAll, List.mem_append] at h
    rw [replaceAll, Inline.replaceTexts_eq_self i fun v hv => h v (.inl hv),
      Inline.replaceAll_eq_self is fun v hv => h v (.inr hv), List.singleton_append]

end

mutual

theorem Block.replaceTexts_eq_self : ∀ b : Block,
    (∀ value ∈ b.looseTexts, value ≠ "" → f value = [.text value]) → b.replaceTexts f = b
  | .heading _ children, h | .paragraph children, h => by
    rw [looseTexts] at h
    rw [replaceTexts, Inline.replaceAll_eq_self children h]
  | .footnoteDefinition _ children, h | .blockquote children, h => by
    rw [looseTexts] at h
    rw [replaceTexts, Block.replaceAll_eq_self children h]
  | .list _ items, h => by
    rw [looseTexts] at h
    rw [replaceTexts, Block.replaceItems_eq_self items h]
  | .table align rows, h => by
    simp only [looseTexts, List.mem_flatMap, List.mem_flatten] at h
    have hrow : ∀ row ∈ rows, row.map (Inline.replaceAll f) = row := fun row hrow =>
      (List.map_congr_left fun cell hcell => Inline.replaceAll_eq_self cell fun v hv =>
        h v ⟨cell, ⟨row, hrow, hcell⟩, hv⟩).trans (List.map_id' row)
    rw [replaceTexts, (List.map_congr_left hrow).trans (List.map_id' rows)]
  | .frontmatter _, _ | .linkDefinition _ _, _ | .codeBlock _ _, _ | .thematicBreak, _
  | .mathBlock _, _ => by
    rw [replaceTexts]

theorem Block.replaceAll_eq_self : ∀ bs : List Block,
    (∀ value ∈ looseTextsAll bs, value ≠ "" → f value = [.text value]) → replaceAll f bs = bs
  | [], _ => rfl
  | b :: bs, h => by
    simp only [looseTextsAll, List.mem_append] at h
    rw [replaceAll, Block.replaceTexts_eq_self b fun v hv => h v (.inl hv),
      Block.replaceAll_eq_self bs fun v hv => h v (.inr hv)]

theorem Block.replaceItems_eq_self : ∀ items : List (List Block),
    (∀ value ∈ looseTextsItems items, value ≠ "" → f value = [.text value]) →
      replaceItems f items = items
  | [], _ => rfl
  | item :: items, h => by
    simp only [looseTextsItems, List.mem_append] at h
    rw [replaceItems, Block.replaceAll_eq_self item fun v hv => h v (.inl hv),
      Block.replaceItems_eq_self items fun v hv => h v (.inr hv)]

end

theorem Document.replaceTexts_eq_self {d : Document}
    (h : ∀ value ∈ d.looseTexts, value ≠ "" → f value = [.text value]) : d.replaceTexts f = d := by
  rw [replaceTexts, Block.replaceAll_eq_self _ h]

variable {P : String → Prop}

mutual

theorem Inline.looseTexts_replaceTexts (h₀ : P "")
    (hf : ∀ w, ∀ v ∈ Inline.looseTextsAll (f w), P v) :
    ∀ i : Inline, ∀ v ∈ Inline.looseTextsAll (i.replaceTexts f), P v
  | .text value, v, hv => by
    rw [replaceTexts] at hv
    split at hv
    · rename_i he
      simp only [looseTextsAll, looseTexts, List.append_nil, List.mem_singleton] at hv
      rwa [hv, he]
    · exact hf value v hv
  | .strong children, v, hv | .emphasis children, v, hv | .strike children, v, hv
  | .highlight children, v, hv | .link _ children, v, hv | .linkReference _ _ children, v, hv => by
    simp only [replaceTexts, looseTextsAll, looseTexts, List.append_nil] at hv
    exact Inline.looseTexts_replaceAll h₀ hf children v hv
  | .subscript _, v, hv | .superscript _, v, hv | .inlineCode _, v, hv | .inlineMath _, v, hv
  | .footnoteReference _, v, hv | .image _ _, v, hv | .lineBreak, v, hv => by
    simp [replaceTexts, looseTextsAll, looseTexts] at hv

theorem Inline.looseTexts_replaceAll (h₀ : P "")
    (hf : ∀ w, ∀ v ∈ Inline.looseTextsAll (f w), P v) :
    ∀ is : List Inline, ∀ v ∈ Inline.looseTextsAll (replaceAll f is), P v
  | [], v, hv => by simp [replaceAll, looseTextsAll] at hv
  | i :: is, v, hv => by
    rw [replaceAll, looseTextsAll_append, List.mem_append] at hv
    exact hv.elim (Inline.looseTexts_replaceTexts h₀ hf i v)
      (Inline.looseTexts_replaceAll h₀ hf is v)

end

mutual

theorem Block.looseTexts_replaceTexts (h₀ : P "")
    (hf : ∀ w, ∀ v ∈ Inline.looseTextsAll (f w), P v) :
    ∀ b : Block, ∀ v ∈ (b.replaceTexts f).looseTexts, P v
  | .heading _ children, v, hv | .paragraph children, v, hv => by
    rw [replaceTexts, looseTexts] at hv
    exact Inline.looseTexts_replaceAll h₀ hf children v hv
  | .footnoteDefinition _ children, v, hv | .blockquote children, v, hv => by
    rw [replaceTexts, looseTexts] at hv
    exact Block.looseTexts_replaceAll h₀ hf children v hv
  | .list _ items, v, hv => by
    rw [replaceTexts, looseTexts] at hv
    exact Block.looseTexts_replaceItems h₀ hf items v hv
  | .table _ rows, v, hv => by
    simp only [replaceTexts, looseTexts, List.mem_flatMap, List.mem_flatten, List.mem_map] at hv
    obtain ⟨_, ⟨_, ⟨row, hrow, rfl⟩, hcell⟩, hv⟩ := hv
    obtain ⟨cell, -, rfl⟩ := List.mem_map.1 hcell
    exact Inline.looseTexts_replaceAll h₀ hf cell v hv
  | .frontmatter _, v, hv | .linkDefinition _ _, v, hv | .codeBlock _ _, v, hv
  | .thematicBreak, v, hv | .mathBlock _, v, hv => by
    simp [replaceTexts, looseTexts] at hv

theorem Block.looseTexts_replaceAll (h₀ : P "")
    (hf : ∀ w, ∀ v ∈ Inline.looseTextsAll (f w), P v) :
    ∀ bs : List Block, ∀ v ∈ looseTextsAll (replaceAll f bs), P v
  | [], v, hv => by simp [replaceAll, looseTextsAll] at hv
  | b :: bs, v, hv => by
    rw [replaceAll, looseTextsAll, List.mem_append] at hv
    exact hv.elim (Block.looseTexts_replaceTexts h₀ hf b v) (Block.looseTexts_replaceAll h₀ hf bs v)

theorem Block.looseTexts_replaceItems (h₀ : P "")
    (hf : ∀ w, ∀ v ∈ Inline.looseTextsAll (f w), P v) :
    ∀ items : List (List Block), ∀ v ∈ looseTextsItems (replaceItems f items), P v
  | [], v, hv => by simp [replaceItems, looseTextsItems] at hv
  | item :: items, v, hv => by
    rw [replaceItems, looseTextsItems, List.mem_append] at hv
    exact hv.elim (Block.looseTexts_replaceAll h₀ hf item v)
      (Block.looseTexts_replaceItems h₀ hf items v)

end

/-- The texts of a document after replacing are empty or come from a replacement. -/
theorem Document.looseTexts_replaceTexts {d : Document} (h₀ : P "")
    (hf : ∀ w, ∀ v ∈ Inline.looseTextsAll (f w), P v) : ∀ v ∈ (d.replaceTexts f).looseTexts, P v :=
  Block.looseTexts_replaceAll h₀ hf d.children

end

end Typeset
