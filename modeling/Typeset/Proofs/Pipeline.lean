/-
What a pipeline makes of what a reader gives.

Whatever the reader, a pipeline hands on its message, or changes the document of
its tree by all tree transforms from first to last. The conversion of a tree
makes no superscript, subscript or highlight, so such a document gets spans from
cutting alone.
-/
import Typeset.Pipeline
import Typeset.Proofs.Spans.Runs

namespace Typeset

open Markdown (Node Dialect)

/-! ## Converted trees -/

namespace Inline

variable {i : Inline} {n : Node} {nodes : List Node} {run children : List Inline}

theorem mem_ofNodes : i ∈ ofNodes nodes ↔ ∃ n ∈ nodes, ofNode n = some i := by
  induction nodes with
  | nil => simp [ofNodes]
  | cons n ns ih => simp [ofNodes, ih]

theorem exists_nodes_of_children? (h : ofNode n = some i) (hc : i.children? = some children) :
    ∃ below, children = ofNodes below := by
  cases n <;> cases h <;> cases hc <;> exact ⟨_, rfl⟩

/-- What stands in a converted run, however deep, comes from a node. -/
theorem Within.exists_ofNode (h : i.Within run) (hrun : run = ofNodes nodes) :
    ∃ n, ofNode n = some i := by
  induction h generalizing nodes with
  | here hi =>
    subst hrun
    obtain ⟨n, -, hn⟩ := mem_ofNodes.1 hi
    exact ⟨n, hn⟩
  | under j hj hc _ ih =>
    subst hrun
    obtain ⟨n, -, hn⟩ := mem_ofNodes.1 hj
    obtain ⟨below, hbelow⟩ := exists_nodes_of_children? hn hc
    exact ih hbelow

def isHighlight : Inline → Bool
  | .highlight _ => true
  | _ => false

/-- No node is a superscript, a subscript or a highlight. -/
theorem not_marked_of_ofNode (h : ofNode n = some i) : i.isSpan = false ∧ i.isHighlight = false := by
  cases n <;> cases h <;> exact ⟨rfl, rfl⟩

theorem exists_nodes_of_ofRow? {row : List (List Inline)} (h : ofRow? n = some row) :
    ∀ run ∈ row, ∃ nodes, run = ofNodes nodes := by
  intro run hrun
  cases n with
  | tableRow cells =>
    cases h
    obtain ⟨c, -, hc⟩ := List.mem_filterMap.1 hrun
    cases c <;> cases hc
    exact ⟨_, rfl⟩
  | _ => cases h

end Inline

namespace Block

mutual

/-- The runs of a converted block are converted runs. -/
theorem exists_nodes_of_ofNode : ∀ n : Node, ∀ b ∈ ofNode n, ∀ run ∈ b.runs,
    ∃ nodes, run = Inline.ofNodes nodes
  | .heading _ _ | .paragraph _ => by
    rintro b ⟨⟩ run hrun
    exact ⟨_, List.mem_singleton.1 hrun⟩
  | .footnoteDefinition _ children | .blockquote children => by
    rintro b ⟨⟩ run hrun
    exact exists_nodes_of_ofNodes children run hrun
  | .list _ children => by
    rintro b ⟨⟩ run hrun
    exact exists_nodes_of_ofItems children run hrun
  | .table _ rows => by
    rintro b ⟨⟩ run hrun
    obtain ⟨row, hrow, hrun⟩ := List.mem_flatten.1 hrun
    obtain ⟨n, -, hn⟩ := List.mem_filterMap.1 hrow
    exact Inline.exists_nodes_of_ofRow? hn run hrun
  | .yaml _ | .definition _ _ | .code _ _ | .thematicBreak | .math _ => by
    rintro b ⟨⟩ run hrun
    cases hrun
  | .root _ | .listItem _ | .tableRow _ | .tableCell _ | .toml | .html | .text _ | .emphasis _
  | .strong _ | .delete _ | .inlineCode _ | .inlineMath _ | .hardBreak | .link _ _ | .image _ _
  | .linkReference _ _ _ | .imageReference | .footnoteReference _ | .esm | .flowElement _
  | .textElement _ | .flowExpression | .textExpression => by
    rintro b ⟨⟩

theorem exists_nodes_of_ofNodes : ∀ ns : List Node, ∀ run ∈ runsAll (ofNodes ns),
    ∃ nodes, run = Inline.ofNodes nodes
  | [] => nofun
  | n :: ns => by
    intro run hrun
    cases hb : ofNode n with
    | none =>
      rw [ofNodes, hb] at hrun
      exact exists_nodes_of_ofNodes ns run hrun
    | some b =>
      rw [ofNodes, hb] at hrun
      rcases List.mem_append.1 hrun with hrun | hrun
      · exact exists_nodes_of_ofNode n b hb run hrun
      · exact exists_nodes_of_ofNodes ns run hrun

theorem exists_nodes_of_ofItems : ∀ ns : List Node, ∀ run ∈ runsItems (ofItems ns),
    ∃ nodes, run = Inline.ofNodes nodes
  | [] => nofun
  | n :: ns => by
    intro run hrun
    by_cases hn : ∃ children, n = .listItem children
    · obtain ⟨children, rfl⟩ := hn
      rcases List.mem_append.1 hrun with hrun | hrun
      · exact exists_nodes_of_ofNodes children run hrun
      · exact exists_nodes_of_ofItems ns run hrun
    · rw [ofItems] at hrun
      · exact exists_nodes_of_ofItems ns run hrun
      · exact fun children he => hn ⟨children, he⟩

end

end Block

namespace Document

/-- **A converted document has no superscript, no subscript and no highlight.** -/
theorem not_marked_of_holds {nodes : List Node} {i : Inline} (h : (ofNodes nodes).Holds i) :
    i.isSpan = false ∧ i.isHighlight = false := by
  obtain ⟨run, hrun, hi⟩ := h
  obtain ⟨ns, hns⟩ := Block.exists_nodes_of_ofNodes nodes run hrun
  obtain ⟨n, hn⟩ := hi.exists_ofNode hns
  exact Inline.not_marked_of_ofNode hn

theorem spanless_of_mem_runs {nodes : List Node} {run : List Inline}
    (h : run ∈ (ofNodes nodes).runs) : Inline.Spanless run :=
  fun _ hi => (not_marked_of_holds ⟨run, h, hi⟩).1

end Document

/-! ## Pipelines -/

/-- A transform that is added to a pipeline. -/
inductive Addition where
  | text (change : String → String)
  | tree (change : Document → Document)

namespace Addition

def text? : Addition → Option (String → String)
  | .text f => some f
  | .tree _ => none

def tree? : Addition → Option (Document → Document)
  | .text _ => none
  | .tree f => some f

end Addition

/-- What a reader comes to without transforms: its message, or the document of its tree. -/
def MarkdownReader.document {δ : Type} (read : MarkdownReader δ) (dialect : δ) (source : String) :
    Except ParseError Document :=
  match read dialect source with
  | .error message => .error (.source message.display message.location)
  | .ok nodes => .ok (.ofNodes nodes)

namespace Pipeline

section

variable {δ : Type} {read : MarkdownReader δ} {dialect : δ} {p : Pipeline δ}

/-- A pipeline with one more transform. -/
def add (p : Pipeline δ) : Addition → Pipeline δ
  | .text f => p.addTextTransform f
  | .tree f => p.addTreeTransform f

/-- A pipeline with transforms added one after the other. -/
def addAll (p : Pipeline δ) (additions : List Addition) : Pipeline δ := additions.foldl add p

theorem addAll_eq (additions : List Addition) : p.addAll additions =
    { dialect := p.dialect
      textTransforms := p.textTransforms ++ additions.filterMap Addition.text?
      treeTransforms := p.treeTransforms ++ additions.filterMap Addition.tree? } := by
  induction additions generalizing p with
  | nil => simp [addAll]
  | cons a additions ih =>
    rw [addAll, List.foldl_cons, ← addAll, ih]
    cases a <;>
      simp [add, addTextTransform, addTreeTransform, List.filterMap_cons, Addition.text?,
        Addition.tree?]

theorem runWith_eq (source : String) : p.runWith read source =
    (read.document p.dialect (p.prepare source)).map p.finish := by
  rw [runWith, MarkdownReader.document]
  cases read p.dialect (p.prepare source) <;> rfl

theorem runWith_addAll (additions : List Addition) (source : String) :
    (p.addAll additions).runWith read source =
      (read.document p.dialect
        ((additions.filterMap Addition.text?).foldl (fun s f => f s) (p.prepare source))).map
      fun d => (additions.filterMap Addition.tree?).foldl (fun d f => f d) (p.finish d) := by
  rw [runWith_eq, addAll_eq]
  simp only [prepare, List.foldl_append]
  congr 1
  funext d
  rw [finish, List.foldl_append, finish]

end

variable {read : MarkdownReader Dialect} {o : ParseOptions}

theorem prepare_ofOptions (source : String) : (ofOptions o).prepare source = source := by
  unfold ofOptions
  cases o.supersub <;> rfl

theorem finish_ofOptions (d : Document) :
    (ofOptions o).finish d = if o.supersub then d.splitSpans else d := by
  unfold ofOptions
  cases o.supersub <;> rfl

theorem dialect_ofOptions : (ofOptions o).dialect = o.dialect := by
  unfold ofOptions
  cases o.supersub <;> rfl

theorem runWith_ofOptions (source : String) : (ofOptions o).runWith read source =
    (read.document o.dialect source).map fun d => if o.supersub then d.splitSpans else d := by
  rw [runWith_eq, dialect_ofOptions, prepare_ofOptions, funext finish_ofOptions]

theorem spanless_of_document {source : String} {d : Document}
    (h : read.document o.dialect source = .ok d) : ∀ run ∈ d.runs, Inline.Spanless run := by
  unfold MarkdownReader.document at h
  split at h
  · cases h
  · cases h
    exact fun run => Document.spanless_of_mem_runs

theorem spansApart_of_runWith {source : String} {d : Document}
    (h : (ofOptions { o with supersub := true }).runWith read source = .ok d) : d.SpansApart := by
  rw [runWith_ofOptions] at h
  cases hd : read.document { o with supersub := true }.dialect source with
  | error e =>
    rw [hd] at h
    cases h
  | ok bare =>
    rw [hd] at h
    cases h
    exact Document.spansApart_splitSpans (spanless_of_document hd)

theorem map_writeOut_runWith (source : String) :
    ((ofOptions { o with supersub := true }).runWith read source).map Document.writeOut =
      ((ofOptions { o with supersub := false }).runWith read source).map Document.mergeTexts := by
  have hdialect : { o with supersub := true }.dialect = { o with supersub := false }.dialect := rfl
  rw [runWith_ofOptions, runWith_ofOptions, hdialect]
  cases hd : read.document { o with supersub := false }.dialect source with
  | error e => rfl
  | ok bare =>
    exact congrArg Except.ok (Document.writeOut_splitSpans_eq_mergeTexts (spanless_of_document hd))

/-- **A pipeline runs what is added to it in order**, all text transforms on the source and then all
tree transforms on the document, and cuts spans before those if its options ask for it. The
conversion alone makes no superscript, subscript or highlight. So where spans are cut, each holds one
text of one line and none stands in another, and written out they give what there is where spans are
not cut, up to texts that meet. -/
theorem runs_in_order :
    (∀ (δ : Type) (read : MarkdownReader δ) (dialect : δ) (additions : List Addition)
      (source : String),
      ((ofDialect dialect).addAll additions).runWith read source =
        (read.document dialect
          ((additions.filterMap Addition.text?).foldl (fun s f => f s) source)).map
        fun d => (additions.filterMap Addition.tree?).foldl (fun d f => f d) d) ∧
    (∀ (read : MarkdownReader Dialect) (o : ParseOptions) (additions : List Addition)
      (source : String),
      ((ofOptions o).addAll additions).runWith read source =
        (read.document o.dialect
          ((additions.filterMap Addition.text?).foldl (fun s f => f s) source)).map
        fun d => (additions.filterMap Addition.tree?).foldl (fun d f => f d)
          (if o.supersub then d.splitSpans else d)) ∧
    (∀ (nodes : List Node) (i : Inline), (Document.ofNodes nodes).Holds i →
      i.isSpan = false ∧ i.isHighlight = false) ∧
    (∀ (read : MarkdownReader Dialect) (o : ParseOptions) (source : String) (d : Document),
      (ofOptions { o with supersub := true }).runWith read source = .ok d → d.SpansApart) ∧
    ∀ (read : MarkdownReader Dialect) (o : ParseOptions) (source : String),
      ((ofOptions { o with supersub := true }).runWith read source).map Document.writeOut =
        ((ofOptions { o with supersub := false }).runWith read source).map Document.mergeTexts := by
  refine ⟨fun δ read dialect additions source => runWith_addAll additions source,
    fun read o additions source => ?_, fun nodes i => Document.not_marked_of_holds,
    fun read o source d => spansApart_of_runWith, fun read o source => map_writeOut_runWith source⟩
  rw [runWith_addAll, dialect_ofOptions, prepare_ofOptions, funext finish_ofOptions]

/-- A reader that takes a source for a paragraph of one text. -/
def paragraphReader : MarkdownReader Dialect := fun _ source => .ok [.paragraph [.text source]]

/-- A subscript is cut out of the text of a paragraph, and stands apart. -/
theorem water_spansApart :
    (ofOptions {}).runWith paragraphReader "H~2~O" =
      .ok ⟨[.paragraph [.text "H", .subscript [.text "2"], .text "O"]]⟩ ∧
    Document.SpansApart ⟨[.paragraph [.text "H", .subscript [.text "2"], .text "O"]]⟩ := by
  have htext : splitText "H~2~O" = [.text "H", .subscript [.text "2"], .text "O"] := by
    simp [splitText, Spans.cutFrom, Spans.isDelimiter, Spans.content?, Spans.upTo, Spans.endsLine,
      Spans.plain, Spans.node]
  have hsplit : (Document.mk [.paragraph [.text "H~2~O"]]).splitSpans =
      ⟨[.paragraph [.text "H", .subscript [.text "2"], .text "O"]]⟩ := by
    simp [Document.splitSpans_eq_replaceTexts, Document.replaceTexts, Block.replaceAll,
      Block.replaceTexts, Inline.replaceAll, Inline.replaceTexts, htext]
  have h : (ofOptions {}).runWith paragraphReader "H~2~O" =
      .ok ⟨[.paragraph [.text "H", .subscript [.text "2"], .text "O"]]⟩ := by
    rw [runWith_ofOptions]
    exact congrArg Except.ok hsplit
  exact ⟨h, runs_in_order.2.2.2.1 paragraphReader {} "H~2~O" _ h⟩

end Pipeline

end Typeset
