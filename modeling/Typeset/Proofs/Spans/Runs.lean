/-
Spans among the inlines of a document.

The inlines of a document stand in runs: its headings, paragraphs and cells, and
what is below an inline is a run again. Where a document without superscripts and
subscripts is cut, each of those it gets holds one text of one line, so none
stands below another, and to write them out again is to merge the texts that
meet in what there was before.
-/
import Typeset.Proofs.Spans.WrittenOut

namespace Typeset

/-! ## Runs -/

namespace Block

mutual

/-- The runs of a block: its heading, its paragraph, its cells, or those of the blocks in it. -/
def runs : Block → List (List Inline)
  | .heading _ children | .paragraph children => [children]
  | .footnoteDefinition _ children | .blockquote children => runsAll children
  | .list _ items => runsItems items
  | .table _ rows => rows.flatten
  | .frontmatter _ | .linkDefinition _ _ | .codeBlock _ _ | .thematicBreak | .mathBlock _ => []

def runsAll : List Block → List (List Inline)
  | [] => []
  | b :: bs => b.runs ++ runsAll bs

def runsItems : List (List Block) → List (List Inline)
  | [] => []
  | item :: items => runsAll item ++ runsItems items

end

mutual

/-- A block with `g` of each run in its place. -/
def mapRuns (g : List Inline → List Inline) : Block → Block
  | .heading depth children => .heading depth (g children)
  | .paragraph children => .paragraph (g children)
  | .footnoteDefinition identifier children => .footnoteDefinition identifier (mapRunsAll g children)
  | .blockquote children => .blockquote (mapRunsAll g children)
  | .list ordered items => .list ordered (mapRunsItems g items)
  | .table align rows => .table align (rows.map fun row => row.map g)
  | .frontmatter value => .frontmatter value
  | .linkDefinition identifier url => .linkDefinition identifier url
  | .codeBlock lang value => .codeBlock lang value
  | .thematicBreak => .thematicBreak
  | .mathBlock value => .mathBlock value

def mapRunsAll (g : List Inline → List Inline) : List Block → List Block
  | [] => []
  | b :: bs => b.mapRuns g :: mapRunsAll g bs

def mapRunsItems (g : List Inline → List Inline) : List (List Block) → List (List Block)
  | [] => []
  | item :: items => mapRunsAll g item :: mapRunsItems g items

end

section

variable {f : String → List Inline}

mutual

/-- Replacing texts replaces them run by run. -/
theorem runs_replaceTexts : ∀ b : Block,
    (b.replaceTexts f).runs = b.runs.map (Inline.replaceAll f)
  | .heading _ _ | .paragraph _ => by
    rw [replaceTexts, runs, runs, List.map_singleton]
  | .footnoteDefinition _ children | .blockquote children => by
    rw [replaceTexts, runs, runs, runsAll_replaceAll children]
  | .list _ items => by
    rw [replaceTexts, runs, runs, runsItems_replaceItems items]
  | .table _ _ => by
    rw [replaceTexts, runs, runs, List.map_flatten]
  | .frontmatter _ | .linkDefinition _ _ | .codeBlock _ _ | .thematicBreak | .mathBlock _ => by
    rw [replaceTexts, runs, List.map_nil]

theorem runsAll_replaceAll : ∀ bs : List Block,
    runsAll (replaceAll f bs) = (runsAll bs).map (Inline.replaceAll f)
  | [] => rfl
  | b :: bs => by
    rw [replaceAll, runsAll, runsAll, List.map_append, runs_replaceTexts b, runsAll_replaceAll bs]

theorem runsItems_replaceItems : ∀ items : List (List Block),
    runsItems (replaceItems f items) = (runsItems items).map (Inline.replaceAll f)
  | [] => rfl
  | item :: items => by
    rw [replaceItems, runsItems, runsItems, List.map_append, runsAll_replaceAll item,
      runsItems_replaceItems items]

end

variable {g : List Inline → List Inline}

mutual

/-- Writing out is what it is on the runs. -/
theorem writeOut_eq_mapRuns : ∀ b : Block,
    (∀ run ∈ b.runs, Inline.writeAll run = g run) → b.writeOut = b.mapRuns g
  | .heading _ _, h | .paragraph _, h => by
    rw [writeOut, mapRuns, h _ (by simp [runs])]
  | .footnoteDefinition _ children, h | .blockquote children, h => by
    rw [runs] at h
    rw [writeOut, mapRuns, writeAll_eq_mapRunsAll children h]
  | .list _ items, h => by
    rw [runs] at h
    rw [writeOut, mapRuns, writeItems_eq_mapRunsItems items h]
  | .table _ rows, h => by
    rw [runs] at h
    have hrow : ∀ row ∈ rows, row.map Inline.writeAll = row.map g := fun row hrow =>
      List.map_congr_left fun cell hcell => h cell (List.mem_flatten_of_mem hrow hcell)
    rw [writeOut, mapRuns, List.map_congr_left hrow]
  | .frontmatter _, _ | .linkDefinition _ _, _ | .codeBlock _ _, _ | .thematicBreak, _
  | .mathBlock _, _ => by
    rw [writeOut, mapRuns]

theorem writeAll_eq_mapRunsAll : ∀ bs : List Block,
    (∀ run ∈ runsAll bs, Inline.writeAll run = g run) → writeAll bs = mapRunsAll g bs
  | [], _ => rfl
  | b :: bs, h => by
    simp only [runsAll, List.mem_append] at h
    rw [writeAll, mapRunsAll, writeOut_eq_mapRuns b fun run hr => h run (.inl hr),
      writeAll_eq_mapRunsAll bs fun run hr => h run (.inr hr)]

theorem writeItems_eq_mapRunsItems : ∀ items : List (List Block),
    (∀ run ∈ runsItems items, Inline.writeAll run = g run) → writeItems items = mapRunsItems g items
  | [], _ => rfl
  | item :: items, h => by
    simp only [runsItems, List.mem_append] at h
    rw [writeItems, mapRunsItems, writeAll_eq_mapRunsAll item fun run hr => h run (.inl hr),
      writeItems_eq_mapRunsItems items fun run hr => h run (.inr hr)]

end

end

end Block

/-! ## Inlines -/

namespace Inline

/-- An inline stands in a run, or below an inline of it. -/
inductive Within (i : Inline) : List Inline → Prop
  | here {is : List Inline} : i ∈ is → Within i is
  | under {is children : List Inline} (j : Inline) : j ∈ is → j.children? = some children →
    Within i children → Within i is

/-- A superscript or a subscript. -/
def isSpan : Inline → Bool
  | .superscript _ | .subscript _ => true
  | _ => false

/-- A run with no superscript or subscript in it. -/
def Spanless (is : List Inline) : Prop := ∀ i, Within i is → i.isSpan = false

/-- A span, if it is one, holds one text that is not empty and lies on one line. -/
def IsCut (i : Inline) : Prop :=
  ∀ children, i = .superscript children ∨ i = .subscript children →
    ∃ value, children = [.text value] ∧ value ≠ "" ∧ '\r' ∉ value.toList ∧ '\n' ∉ value.toList

variable {i j : Inline} {is children : List Inline}

theorem Spanless.of_mem (h : Spanless is) (hj : j ∈ is) : j.isSpan = false := h j (.here hj)

theorem Spanless.below (h : Spanless is) (hj : j ∈ is) (hc : j.children? = some children) :
    Spanless children :=
  fun i hi => h i (.under j hj hc hi)

theorem Within.mono {js : List Inline} (h : i.Within is) (hsub : is ⊆ js) : i.Within js := by
  cases h with
  | here hi => exact .here (hsub hi)
  | under j hj hc hi => exact .under j (hsub hj) hc hi

theorem Spanless.mono {js : List Inline} (h : Spanless js) (hsub : is ⊆ js) : Spanless is :=
  fun i hi => h i (hi.mono hsub)

theorem isCut_of_not_isSpan (h : i.isSpan = false) : i.IsCut := by
  rintro children (rfl | rfl) <;> cases h

/-! ### Merging -/

mutual

/-- An inline with the texts that meet in it merged. -/
def mergeTexts : Inline → Inline
  | .strong children => .strong (merge (mergeEach children))
  | .emphasis children => .emphasis (merge (mergeEach children))
  | .strike children => .strike (merge (mergeEach children))
  | .highlight children => .highlight (merge (mergeEach children))
  | .subscript children => .subscript (merge (mergeEach children))
  | .superscript children => .superscript (merge (mergeEach children))
  | .link url children => .link url (merge (mergeEach children))
  | .linkReference identifier label children =>
    .linkReference identifier label (merge (mergeEach children))
  | .text value => .text value
  | .inlineCode value => .inlineCode value
  | .inlineMath value => .inlineMath value
  | .footnoteReference identifier => .footnoteReference identifier
  | .image url alt => .image url alt
  | .lineBreak => .lineBreak

def mergeEach : List Inline → List Inline
  | [] => []
  | i :: is => i.mergeTexts :: mergeEach is

end

/-- A run with the texts that meet merged, at any depth. -/
def mergeAll (is : List Inline) : List Inline := merge (mergeEach is)

mutual

theorem writeOut_of_spanless : ∀ i : Inline, Spanless [i] → i.writeOut = [i.mergeTexts]
  | .strong children, h | .emphasis children, h | .strike children, h | .highlight children, h
  | .link _ children, h | .linkReference _ _ children, h => by
    rw [writeOut, mergeTexts,
      writeEach_of_spanless children (h.below (List.mem_singleton.2 rfl) rfl)]
  | .superscript _, h | .subscript _, h => nomatch h.of_mem (List.mem_singleton.2 rfl)
  | .text _, _ | .inlineCode _, _ | .inlineMath _, _ | .footnoteReference _, _ | .image _ _, _
  | .lineBreak, _ => by
    rw [writeOut, mergeTexts]

theorem writeEach_of_spanless : ∀ is : List Inline, Spanless is → writeEach is = mergeEach is
  | [], _ => rfl
  | i :: is, h => by
    have hi : Spanless [i] := h.mono (by simp)
    have his : Spanless is := h.mono (List.subset_cons_self i is)
    rw [writeEach, mergeEach, writeOut_of_spanless i hi, writeEach_of_spanless is his,
      List.singleton_append]

end

/-- Without superscripts and subscripts, writing out only merges texts. -/
theorem writeAll_of_spanless (h : Spanless is) : writeAll is = mergeAll is := by
  rw [writeAll, mergeAll, writeEach_of_spanless is h]

/-! ### Cutting -/

theorem not_isSpan_of_within_text {value : String} (h : i.Within [.text value]) :
    i.isSpan = false := by
  cases h with
  | here hi =>
    rw [List.mem_singleton.1 hi]
    rfl
  | under j hj hc =>
    obtain rfl := List.mem_singleton.1 hj
    cases hc

theorem children_node {d : Char} {content : List Char} (hne : content ≠ [])
    (hline : ∀ c ∈ content, c ≠ '\r' ∧ c ≠ '\n') :
    (Spans.node d content).IsCut ∧
      (Spans.node d content).children? = some [.text (String.ofList content)] := by
  have hcontent : String.ofList content ≠ "" ∧ '\r' ∉ (String.ofList content).toList ∧
      '\n' ∉ (String.ofList content).toList := by
    rw [String.toList_ofList]
    exact ⟨by simpa using hne, fun hr => (hline _ hr).1 rfl, fun hn => (hline _ hn).2 rfl⟩
  unfold Spans.node
  split
  all_goals
    refine ⟨fun children hc => ⟨_, ?_, hcontent⟩, rfl⟩
    simpa [eq_comm] using hc

theorem mem_replaceAll {f : String → List Inline} :
    i ∈ replaceAll f is ↔ ∃ j ∈ is, i ∈ j.replaceTexts f := by
  induction is with
  | nil => simp [replaceAll]
  | cons j is ih => simp [replaceAll, ih]

/-- Cutting an inline that is no span makes spans of one text, and goes on below the inline. -/
theorem of_mem_replaceTexts (hj : j.isSpan = false) (hi : i ∈ j.replaceTexts splitText) :
    i.IsCut ∧ ∀ children, i.children? = some children → (∃ value, children = [.text value]) ∨
      ∃ below, j.children? = some below ∧ children = replaceAll splitText below := by
  cases j with
  | text value =>
    rw [replaceTexts] at hi
    split at hi
    · obtain rfl := List.mem_singleton.1 hi
      exact ⟨isCut_of_not_isSpan rfl, fun _ hc => nomatch hc⟩
    · rcases Spans.mem_splitText hi with ⟨piece, rfl, -⟩ | ⟨d, content, rfl, hne, hline⟩
      · exact ⟨isCut_of_not_isSpan rfl, fun _ hc => nomatch hc⟩
      · obtain ⟨hcut, hchildren⟩ := children_node (d := d) hne hline
        exact ⟨hcut, fun _ hc => .inl ⟨_, Option.some.inj (hc.symm.trans hchildren)⟩⟩
  | superscript | subscript => cases hj
  | strong children | emphasis children | strike children | highlight children | link _ children
  | linkReference _ _ children =>
    obtain rfl := List.mem_singleton.1 hi
    exact ⟨isCut_of_not_isSpan rfl, fun _ hc => .inr ⟨_, rfl, (Option.some.inj hc).symm⟩⟩
  | inlineCode | inlineMath | footnoteReference | image | lineBreak =>
    obtain rfl := List.mem_singleton.1 hi
    exact ⟨isCut_of_not_isSpan rfl, fun _ hc => nomatch hc⟩

/-- **Cutting makes spans of one text.** -/
theorem Within.isCut {run : List Inline} (h : i.Within run) (his : Spanless is)
    (hrun : run = replaceAll splitText is) : i.IsCut := by
  induction h generalizing is with
  | here hi =>
    subst hrun
    obtain ⟨j, hj, hi⟩ := mem_replaceAll.1 hi
    exact (of_mem_replaceTexts (his.of_mem hj) hi).1
  | under k hk hc hwithin ih =>
    subst hrun
    obtain ⟨j, hj, hk⟩ := mem_replaceAll.1 hk
    rcases (of_mem_replaceTexts (his.of_mem hj) hk).2 _ hc with ⟨value, rfl⟩ | ⟨below, hb, rfl⟩
    · exact isCut_of_not_isSpan (not_isSpan_of_within_text hwithin)
    · exact ih (his.below hj hb) rfl

end Inline

/-! ## Documents -/

namespace Document

def runs (d : Document) : List (List Inline) := Block.runsAll d.children

/-- Somewhere in a document, at any depth, stands an inline. -/
def Holds (d : Document) (i : Inline) : Prop := ∃ run ∈ d.runs, i.Within run

/-- A document with the texts that meet merged. -/
def mergeTexts (d : Document) : Document := ⟨Block.mapRunsAll Inline.mergeAll d.children⟩

/-- A document whose superscripts and subscripts hold one text of one line each, so that none of
them stands in another. -/
structure SpansApart (d : Document) : Prop where
  single : ∀ i, d.Holds i → i.IsCut
  apart : ∀ i children, d.Holds i → i.isSpan → i.children? = some children →
    ∀ j : Inline, j.Within children → j.isSpan = false

variable {d : Document}

theorem spansApart_of_isCut (h : ∀ i, d.Holds i → i.IsCut) : d.SpansApart where
  single := h
  apart i children hi hspan hc j hj := by
    have htext : ∃ value, children = [.text value] := by
      cases i with
      | superscript cs | subscript cs =>
        obtain ⟨value, hvalue, -⟩ := h _ hi cs (by simp)
        exact ⟨value, (Option.some.inj hc).symm.trans hvalue⟩
      | _ => cases hspan
    obtain ⟨value, rfl⟩ := htext
    exact Inline.not_isSpan_of_within_text hj

theorem runs_splitSpans : d.splitSpans.runs = d.runs.map (Inline.replaceAll splitText) := by
  rw [splitSpans_eq_replaceTexts]
  exact Block.runsAll_replaceAll d.children

/-- **Spans that come from cutting do not nest.** -/
theorem spansApart_splitSpans (h : ∀ run ∈ d.runs, Inline.Spanless run) :
    d.splitSpans.SpansApart := by
  refine spansApart_of_isCut ?_
  rintro i ⟨run, hrun, hi⟩
  rw [runs_splitSpans] at hrun
  obtain ⟨is, his, rfl⟩ := List.mem_map.1 hrun
  exact hi.isCut (h is his) rfl

/-- Written out, what is cut is the document before, its texts merged. -/
theorem writeOut_splitSpans_eq_mergeTexts (h : ∀ run ∈ d.runs, Inline.Spanless run) :
    d.splitSpans.writeOut = d.mergeTexts := by
  have hwrite : Block.writeAll d.children = Block.mapRunsAll Inline.mergeAll d.children :=
    Block.writeAll_eq_mapRunsAll d.children fun run hrun => Inline.writeAll_of_spanless (h run hrun)
  rw [writeOut_splitSpans, writeOut, mergeTexts, hwrite]

end Document

end Typeset
