/-
Depths of headings, and where they matter.

Rendering clamps the depth of a heading, so a tree with every depth clamped
comes to the same markup. The search for the title does not clamp: a heading of
depth zero is shown as one of the first level and still opens no document.
Whether the file changes when depths are clamped turns on such a heading alone.
-/
import Mathlib.Data.List.InsertIdx
import Typeset.Proofs.Render.Interchange
import Typeset.Proofs.Render.Title

namespace Typeset

/-! ## Clamped trees -/

/-- A depth from 1 to 6, the nearest to the one given. -/
def clampDepth (depth : UInt8) : UInt8 :=
  if depth < 1 then 1 else if 6 < depth then 6 else depth

namespace Block

mutual

/-- A block with the depth of every heading clamped. -/
def clampDepths : Block → Block
  | .heading depth children => .heading (clampDepth depth) children
  | .footnoteDefinition identifier children => .footnoteDefinition identifier (clampAll children)
  | .blockquote children => .blockquote (clampAll children)
  | .list ordered items => .list ordered (clampItems items)
  | .paragraph children => .paragraph children
  | .table align rows => .table align rows
  | .frontmatter value => .frontmatter value
  | .linkDefinition identifier url => .linkDefinition identifier url
  | .codeBlock lang value => .codeBlock lang value
  | .thematicBreak => .thematicBreak
  | .mathBlock value => .mathBlock value

def clampAll : List Block → List Block
  | [] => []
  | b :: bs => b.clampDepths :: clampAll bs

def clampItems : List (List Block) → List (List Block)
  | [] => []
  | item :: items => clampAll item :: clampItems items

end

theorem clampAll_eq_map (bs : List Block) : clampAll bs = bs.map clampDepths := by
  induction bs with
  | nil => rfl
  | cons b bs ih => rw [clampAll, ih, List.map_cons]

end Block

/-- A document with the depth of every heading clamped. -/
def Document.clampDepths (d : Document) : Document := ⟨Block.clampAll d.children⟩

/-! ## Markup -/

theorem headingLevel_clampDepth (depth : UInt8) :
    Markup.headingLevel (clampDepth depth) = Markup.headingLevel depth := by
  unfold clampDepth Markup.headingLevel
  split
  · rename_i h
    have hzero : depth.toNat < 1 := UInt8.lt_iff_toNat_lt.1 h
    have hone : (1 : UInt8).toNat = 1 := rfl
    omega
  · split
    · rename_i h
      have hlt : 6 < depth.toNat := UInt8.lt_iff_toNat_lt.1 h
      have hsix : (6 : UInt8).toNat = 6 := rfl
      omega
    · rfl

theorem Text.indent_ne_empty {s : String} (h : s ≠ "") (level : Nat) : Text.indent level s ≠ "" := by
  intro hs
  have hchars : Text.shift (Text.margin level) s.toList = [] := by
    simpa [Text.indent] using congrArg String.toList hs
  have hlines := (List.append_eq_nil_iff.1 hchars).2
  refine h (String.toList_eq_nil_iff.1 (List.eq_nil_iff_forall_not_mem.2 fun c hc => ?_))
  have := List.flatMap_eq_nil_iff.1 hlines c hc
  split at this <;> cases this

theorem Text.joinWith_cons_ne (separator : String) {s : String} (h : s ≠ "") (rest : List String) :
    Text.joinWith separator (s :: rest) ≠ Text.joinWith separator rest := by
  cases rest with
  | nil => exact h
  | cons t rest =>
    intro hs
    have hlength : s.length + separator.length + (Text.joinWith separator (t :: rest)).length =
        (Text.joinWith separator (t :: rest)).length := by
      simpa [Text.joinWith] using congrArg String.length hs
    exact h (String.length_eq_zero_iff.1 (by omega))

theorem Markup.body_of_assemble {t : Template} {m m' : Metadata} {body body' : String}
    (hm : Markup.arguments m = Markup.arguments m')
    (h : Markup.assemble t m body = Markup.assemble t m' body') : body = body' := by
  rw [Markup.assemble, Markup.assemble, Markup.showRule, Markup.showRule, hm] at h
  simpa [String.append_assoc] using h

namespace Block

section

variable (refs : References) (note : NoteExpander Logged)

mutual

/-- **Clamping depths changes no markup.** -/
theorem render_clampDepths (level : Nat) :
    ∀ b : Block, b.clampDepths.render refs note level = b.render refs note level
  | .heading _ _ => by
    rw [clampDepths, render, render, headingLevel_clampDepth]
  | .blockquote children => by
    rw [clampDepths, render, render, renderAll_clampAll 0 children]
  | .list ordered items => by
    rw [clampDepths, render, render, renderItems_clampItems _ level items]
  | .footnoteDefinition _ _ => by
    rw [clampDepths, render, render]
  | .paragraph _ | .table _ _ | .frontmatter _ | .linkDefinition _ _ | .codeBlock _ _
  | .thematicBreak | .mathBlock _ => by
    rw [clampDepths]

theorem renderAll_clampAll (level : Nat) :
    ∀ bs : List Block, renderAll refs note level (clampAll bs) = renderAll refs note level bs
  | [] => rfl
  | b :: bs => by
    rw [clampAll, renderAll, renderAll, render_clampDepths level b, renderAll_clampAll level bs]

theorem renderItems_clampItems (marker : String) (level : Nat) : ∀ items : List (List Block),
    renderItems refs note marker level (clampItems items) = renderItems refs note marker level items
  | [] => rfl
  | item :: items => by
    by_cases hp : ∃ children rest, item = .paragraph children :: rest
    · obtain ⟨children, rest, rfl⟩ := hp
      rw [clampItems, clampAll, clampDepths, renderItems, renderItems,
        renderTail_clampAll (level + 1) rest, renderItems_clampItems marker level items]
    · have hp' : ∀ children rest, item ≠ .paragraph children :: rest :=
        fun children rest he => hp ⟨children, rest, he⟩
      have hc : ∀ children rest, clampAll item ≠ .paragraph children :: rest := by
        intro children rest he
        cases item with
        | nil => cases he
        | cons b bs =>
          cases b <;> cases he
          exact hp' _ _ rfl
      rw [clampItems, renderItems_cons _ _ _ _ _ hp', renderItems_cons _ _ _ _ _ hc,
        renderTail_clampAll (level + 1) item, renderItems_clampItems marker level items]

theorem renderTail_clampAll (level : Nat) :
    ∀ bs : List Block, renderTail refs note level (clampAll bs) = renderTail refs note level bs
  | [] => rfl
  | b :: rest => by
    by_cases hl : ∃ ordered items, b = .list ordered items
    · obtain ⟨ordered, items, rfl⟩ := hl
      rw [clampAll, clampDepths, renderTail, renderTail, renderItems_clampItems _ level items,
        renderTail_clampAll level rest]
    · have hl' : ∀ ordered items, b ≠ .list ordered items :=
        fun ordered items he => hl ⟨ordered, items, he⟩
      have hc : ∀ ordered items, b.clampDepths ≠ .list ordered items := by
        intro ordered items he
        cases b <;> cases he
        exact hl' _ _ rfl
      rw [clampAll, renderTail_cons _ _ _ _ hl', renderTail_cons _ _ _ _ hc,
        render_clampDepths level b, renderTail_clampAll level rest]

end

end

theorem clampAll_sameMarkup (bs : List Block) : SameMarkup (clampAll bs) bs :=
  fun refs note level => renderAll_clampAll refs note level bs

/-! ## Root blocks -/

theorem linkEntry?_clampDepths (b : Block) :
    References.linkEntry? b.clampDepths = References.linkEntry? b := by
  cases b <;> rfl

theorem noteEntry?_clampDepths (b : Block) : References.noteEntry? b.clampDepths =
    (References.noteEntry? b).map fun e => (e.1, clampAll e.2) := by
  cases b <;> rfl

theorem frontmatter?_clampDepths (b : Block) : b.clampDepths.frontmatter? = b.frontmatter? := by
  cases b <;> rfl

theorem prefatory_clampDepths {b : Block} : b.clampDepths.Prefatory ↔ b.Prefatory := by
  rw [← isPreamble_iff, ← isPreamble_iff]
  cases b <;> rfl

theorem interchangeable_clampAll (bs : List Block) :
    (References.ofBlocks (clampAll bs)).Interchangeable (References.ofBlocks bs) := by
  rw [clampAll_eq_map]
  apply References.interchangeable_ofBlocks
  · rw [List.filterMap_map]
    exact congrArg (bs.filterMap ·) (funext linkEntry?_clampDepths)
  · have hentries : References.noteEntry? ∘ clampDepths =
        fun b => (References.noteEntry? b).map fun e => (e.1, clampAll e.2) :=
      funext noteEntry?_clampDepths
    rw [List.filterMap_map, hentries, ← List.map_filterMap, List.forall₂_map_left_iff,
      List.forall₂_same]
    exact fun e _ => ⟨rfl, clampAll_sameMarkup e.2⟩

theorem clampDepth_eq_one_iff {depth : UInt8} : clampDepth depth = 1 ↔ depth = 0 ∨ depth = 1 := by
  unfold clampDepth
  grind

theorem clampDepths_eq_heading_one_iff {b : Block} {children : List Inline} :
    b.clampDepths = .heading 1 children ↔ b = .heading 0 children ∨ b = .heading 1 children := by
  cases b with
  | heading depth cs =>
    simp only [clampDepths, heading.injEq, clampDepth_eq_one_iff, or_and_right]
  | _ => simp [clampDepths]

/-- A heading comes to something, even if its content does not. -/
theorem exists_value_render_heading (refs : References) (note : NoteExpander Logged) (level : Nat)
    (depth : UInt8) (children : List Inline) :
    ∃ s, ((heading depth children).render refs note level).value = some s ∧ s ≠ "" := by
  rw [render, Logged.value_bind, Logged.value_pure]
  refine ⟨_, rfl, Text.indent_ne_empty (fun hs => ?_) level⟩
  simpa using congrArg String.length hs

theorem Prefatory.value_render {b : Block} (h : b.Prefatory) (refs : References)
    (note : NoteExpander Logged) (level : Nat) : (b.render refs note level).value = none := by
  cases h <;> rw [render] <;> rfl

end Block

namespace Document

variable {d : Document} {o : Options} {r : TemplateRegistry} {refs refs' : References}
  {i j : Nat} {text title : String}

theorem children_clampDepths : d.clampDepths.children = d.children.map Block.clampDepths :=
  Block.clampAll_eq_map d.children

theorem frontmatter_clampDepths : d.clampDepths.frontmatter = d.frontmatter := by
  rw [frontmatter, frontmatter, children_clampDepths, List.findSome?_map,
    funext (f := _ ∘ _) Block.frontmatter?_clampDepths]

theorem bodyBlocks_clampDepths (m : Metadata) :
    d.clampDepths.bodyBlocks m = Block.clampAll (d.bodyBlocks m) := by
  rw [Block.clampAll_eq_map]
  unfold bodyBlocks
  cases m.excluded with
  | none => exact children_clampDepths
  | some i =>
    simp only [children_clampDepths]
    exact List.eraseIdx_map _ _ _

/-! ## The heading that opens a document -/

/-- A heading of depth zero stands where one of the first level would open the document. It is shown
with the mark of that level, and its text is passed over. -/
structure Hides (d : Document) (refs : References) (i : Nat) (text : String) : Prop where
  before : ∀ b ∈ d.children.take i, b.Prefatory
  heading : ∃ children, d.children[i]? = some (.heading 0 children) ∧
    Text.trimBlanks (Inline.plainTexts refs children) = text
  text_ne : text ≠ ""

/-- **What opens the clamped document** opens the document itself, or is hidden in it. -/
theorem opens_clampDepths : d.clampDepths.Opens refs i text ↔
    d.Opens refs i text ∨ d.Hides refs i text := by
  have hbefore : (∀ b ∈ d.clampDepths.children.take i, b.Prefatory) ↔
      ∀ b ∈ d.children.take i, b.Prefatory := by
    rw [children_clampDepths, ← List.map_take, List.forall_mem_map]
    simp only [Block.prefatory_clampDepths]
  have hheading : ∀ children, d.clampDepths.children[i]? = some (.heading 1 children) ↔
      d.children[i]? = some (.heading 0 children) ∨ d.children[i]? = some (.heading 1 children) := by
    intro children
    rw [children_clampDepths, List.getElem?_map, Option.map_eq_some_iff]
    simp only [Block.clampDepths_eq_heading_one_iff]
    constructor
    · rintro ⟨b, hb, rfl | rfl⟩
      · exact .inl hb
      · exact .inr hb
    · rintro (hb | hb)
      · exact ⟨_, hb, .inl rfl⟩
      · exact ⟨_, hb, .inr rfl⟩
  constructor
  · rintro ⟨hb, ⟨children, hi, htext⟩, hne⟩
    rcases (hheading children).1 hi with hi | hi
    · exact .inr ⟨hbefore.1 hb, ⟨children, hi, htext⟩, hne⟩
    · exact .inl ⟨hbefore.1 hb, ⟨children, hi, htext⟩, hne⟩
  · rintro (⟨hb, ⟨children, hi, htext⟩, hne⟩ | ⟨hb, ⟨children, hi, htext⟩, hne⟩)
    · exact ⟨hbefore.2 hb, ⟨children, (hheading children).2 (.inr hi), htext⟩, hne⟩
    · exact ⟨hbefore.2 hb, ⟨children, (hheading children).2 (.inl hi), htext⟩, hne⟩

theorem Hides.not_opens (h : d.Hides refs i text) : ¬ d.Opens refs j title := by
  rintro ⟨hbefore, ⟨children, hj, -⟩, -⟩
  obtain ⟨hidden, hi, -⟩ := h.heading
  -- Each of the two is the first block that is no preamble.
  rcases Nat.lt_trichotomy i j with hlt | rfl | hlt
  · cases hbefore _ (List.mem_of_getElem? ((List.getElem?_take_of_lt hlt).trans hi))
  · cases hi.symm.trans hj
  · cases h.before _ (List.mem_of_getElem? ((List.getElem?_take_of_lt hlt).trans hj))

theorem Hides.leadingTitle? (h : d.Hides refs i text) : d.leadingTitle? refs = none :=
  Option.eq_none_iff_forall_ne_some.2 fun _ hl => h.not_opens (leadingTitle?_eq_some_iff.1 hl)

theorem Hides.leadingTitle?_clampDepths (h : d.Hides refs i text) :
    d.clampDepths.leadingTitle? refs = some ⟨text, i⟩ :=
  leadingTitle?_eq_some_iff.2 (opens_clampDepths.2 (.inr h))

theorem leadingTitle?_clampDepths (h : ∀ i text, ¬ d.Hides refs i text) :
    d.clampDepths.leadingTitle? refs = d.leadingTitle? refs := by
  ext l
  rw [leadingTitle?_eq_some_iff, leadingTitle?_eq_some_iff, opens_clampDepths,
    or_iff_left (h l.index l.text)]

/-! ## The file -/

/-- Where no title is given, the clamped document takes the hidden text for one. -/
theorem Hides.title_untitled (h : d.Hides refs i text)
    (hgiven : o.title.or d.frontmatter.title = none) :
    (Metadata.resolve d.clampDepths o refs).title = text ∧ (Metadata.resolve d o refs).title = "" := by
  simp [Metadata.resolve, frontmatter_clampDepths, h.leadingTitle?_clampDepths, h.leadingTitle?,
    hgiven]

/-- Where a title is given, the clamped document leaves out the heading that repeats it. -/
theorem Hides.resolve_titled (h : d.Hides refs i text)
    (hgiven : o.title.or d.frontmatter.title = some title) :
    Metadata.resolve d.clampDepths o refs =
      { Metadata.resolve d o refs with
        excluded := if text = Text.trimBlanks title then some i else none } ∧
      (Metadata.resolve d o refs).excluded = none := by
  have htrim : Text.trimBlanks text = text := by
    obtain ⟨children, -, rfl⟩ := h.heading
    exact Text.trimBlanks_trimBlanks _
  simp only [Metadata.resolve, frontmatter_clampDepths, h.leadingTitle?_clampDepths,
    h.leadingTitle?, hgiven, htrim, Option.some_or, Option.getD_some, Option.filter_some,
    Option.filter_none, Option.map_none, and_true, beq_iff_eq]
  split <;> rfl

/-- The metadata is the same unless a hidden heading would give the title, or repeat it. -/
theorem resolve_clampDepths (h : ∀ i text, d.Hides refs i text →
    ∃ t, o.title.or d.frontmatter.title = some t ∧ text ≠ Text.trimBlanks t) :
    Metadata.resolve d.clampDepths o refs = Metadata.resolve d o refs := by
  by_cases hhides : ∃ i text, d.Hides refs i text
  · obtain ⟨i, text, hh⟩ := hhides
    obtain ⟨t, hgiven, hne⟩ := h i text hh
    obtain ⟨hclamped, hexcluded⟩ := hh.resolve_titled hgiven
    rw [hclamped, if_neg hne, ← hexcluded]
  · have hnone : ∀ i text, ¬ d.Hides refs i text := fun i text hh => hhides ⟨i, text, hh⟩
    simp only [Metadata.resolve, frontmatter_clampDepths, leadingTitle?_clampDepths hnone]

theorem renderBody_clampDepths (m : Metadata) :
    d.clampDepths.renderBody (.ofBlocks d.clampDepths.children) m =
      d.renderBody (.ofBlocks d.children) m := by
  refine renderBody_of_interchangeable (Block.interchangeable_clampAll d.children) ?_
  rw [bodyBlocks_clampDepths]
  exact Block.clampAll_sameMarkup _

theorem resolve_ofBlocks_clampDepths :
    Metadata.resolve d.clampDepths o (.ofBlocks d.clampDepths.children) =
      Metadata.resolve d.clampDepths o (.ofBlocks d.children) :=
  resolve_of_standIn (List.forall₂_same.2 fun b _ => .refl b)
    (Block.interchangeable_clampAll d.children).urls

theorem written_prefatory_append {bs : List Block} (h : ∀ b ∈ bs, b.Prefatory) (cs : List Block) :
    written refs (bs ++ cs) = written refs cs := by
  have hnothing : ∀ b ∈ bs, (b.render refs (expandNote refs []) 0).value = none :=
    fun b hb => (h b hb).value_render refs _ 0
  rw [written, List.filterMap_append, List.filterMap_eq_nil_iff.2 hnothing, List.nil_append, written]

theorem exists_written_heading (depth : UInt8) (children : List Inline) (bs : List Block) :
    ∃ s, s ≠ "" ∧ written refs (.heading depth children :: bs) = s :: written refs bs := by
  obtain ⟨s, hs, hne⟩ := Block.exists_value_render_heading refs (expandNote refs []) 0 depth children
  refine ⟨s, hne, ?_⟩
  simp only [written, List.filterMap_cons, hs]
  exact List.filter_cons_of_pos (by simpa using hne)

/-- A body is not the same without a heading that nothing shown stands before. -/
theorem Hides.renderBody_ne (h : d.Hides refs i text) {m m' : Metadata}
    (hm : m.excluded = some i) (hm' : m'.excluded = none) :
    (d.renderBody refs m).value ≠ (d.renderBody refs m').value := by
  obtain ⟨children, hi, -⟩ := h.heading
  obtain ⟨hlt, hget⟩ := List.getElem?_eq_some_iff.1 hi
  obtain ⟨s, hne, hwritten⟩ := @exists_written_heading refs 0 children (d.children.drop (i + 1))
  have hshort : d.blocksBut (some i) = d.children.take i ++ d.children.drop (i + 1) := by
    rw [← hm, ← bodyBlocks_eq, bodyBlocks, hm]
    exact List.eraseIdx_eq_take_drop_succ _ _
  have hlong : d.blocksBut none =
      d.children.take i ++ .heading 0 children :: d.children.drop (i + 1) := by
    rw [← hm', ← bodyBlocks_eq, bodyBlocks, hm', ← hget, List.getElem_cons_drop,
      List.take_append_drop]
  rw [value_renderBody, value_renderBody, hm, hm', hshort, hlong,
    written_prefatory_append h.before, written_prefatory_append h.before, hwritten]
  exact (Text.joinWith_cons_ne _ hne _).symm

/-- **Depths of headings act through their clamp but for one heading.** Clamping depths changes no
markup at any level. It changes the file exactly if a heading of depth zero stands where one of the
first level would open the document, and its text would be the title or repeat the title given. -/
theorem renderWith_clampDepths_iff (d : Document) (o : Options) (r : TemplateRegistry) :
    Block.SameMarkup d.clampDepths.children d.children ∧
    (d.clampDepths.renderWith o r = d.renderWith o r ↔
      ∀ i text, d.Hides (.ofBlocks d.children) i text →
        ∃ title, o.title.or d.frontmatter.title = some title ∧ text ≠ Text.trimBlanks title) := by
  refine ⟨Block.clampAll_sameMarkup d.children, fun heq i text hh => ?_, fun h => ?_⟩
  · cases hgiven : o.title.or d.frontmatter.title with
    | none =>
      obtain ⟨hclamped, hraw⟩ := hh.title_untitled hgiven
      have htitle := congrArg Rendering.title heq
      simp only [renderWith, resolve_ofBlocks_clampDepths, hclamped, hraw] at htitle
      exact absurd htitle hh.text_ne
    | some title =>
      refine ⟨title, rfl, fun hrepeated => ?_⟩
      obtain ⟨hclamped, hraw⟩ := hh.resolve_titled hgiven
      have htypst := congrArg Rendering.typst heq
      simp only [renderWith, resolve_ofBlocks_clampDepths, hclamped, Logged.value_bind,
        renderBody_clampDepths] at htypst
      have hbody := Markup.body_of_assemble (by simp only [Markup.arguments]) htypst
      refine hh.renderBody_ne ?_ hraw hbody
      exact if_pos hrepeated
  · have hm : Metadata.resolve d.clampDepths o (.ofBlocks d.clampDepths.children) =
        Metadata.resolve d o (.ofBlocks d.children) :=
      resolve_ofBlocks_clampDepths.trans (resolve_clampDepths h)
    exact renderWith_congr hm.symm rfl rfl rfl rfl (renderBody_clampDepths _) r

/-- A heading of depth zero, then a paragraph. -/
def belowFirst : Document := ⟨[.heading 0 [.text "T"], .paragraph [.text "x"]]⟩

/-- The text of a heading that is shown as one of the first level is no title. -/
theorem belowFirst_clampDepths_ne :
    belowFirst.clampDepths.renderWith {} .builtin ≠ belowFirst.renderWith {} .builtin := by
  intro heq
  have hclamped : (belowFirst.clampDepths.renderWith {} .builtin).title = "T" := by decide
  have hraw : (belowFirst.renderWith {} .builtin).title = "" := by decide
  rw [heq, hraw] at hclamped
  exact absurd hclamped (by decide)

end Document

end Typeset
