/-
The lines of list items.

An item is its marker with the paragraph that opens the item behind it, and its
other blocks one level deeper. That paragraph stands there as it is, so the
lines that continue it have no margin of their own; where no list lacks items,
these are the only lines without one. A block below the marker whose text is
empty should leave nothing, but an empty paragraph is moved to its level before
it is looked at, and an empty list is not looked at: each leaves a line, and only
the blocks that are never shown leave none.
-/
import Typeset.Proofs.Render.Indentation

namespace Typeset

/-! ## Covered lines -/

namespace Text

/-- Lines that begin with a margin, but for some, which stand among them in their order. -/
inductive CoveredBut (front : List Char) : List (List Char) → List (List Char) → Prop
  | nil : CoveredBut front [] []
  | covered {line : List Char} {ls bare : List (List Char)} (h : front <+: line)
      (hs : CoveredBut front ls bare) : CoveredBut front (line :: ls) bare
  | bare {ls bare : List (List Char)} (line : List Char) (hs : CoveredBut front ls bare) :
      CoveredBut front (line :: ls) (line :: bare)

namespace CoveredBut

variable {front : List Char} {ls ls' bare bare' : List (List Char)}

theorem of_forall (h : ∀ line ∈ ls, front <+: line) : CoveredBut front ls [] := by
  induction ls with
  | nil => exact .nil
  | cons line ls ih =>
    rw [List.forall_mem_cons] at h
    exact .covered h.1 (ih h.2)

theorem all_bare (front : List Char) (ls : List (List Char)) : CoveredBut front ls ls := by
  induction ls with
  | nil => exact .nil
  | cons line ls ih => exact .bare line ih

theorem append (h : CoveredBut front ls bare) (h' : CoveredBut front ls' bare') :
    CoveredBut front (ls ++ ls') (bare ++ bare') := by
  induction h with
  | nil => exact h'
  | covered hline _ ih => exact .covered hline ih
  | bare line _ ih => exact .bare line ih

/-- All lines begin with the margin exactly if the ones that need not do. -/
theorem forall_iff (h : CoveredBut front ls bare) :
    (∀ line ∈ ls, front <+: line) ↔ ∀ line ∈ bare, front <+: line := by
  induction h with
  | nil => rfl
  | covered hline _ ih => rw [List.forall_mem_cons, ih, and_iff_right hline]
  | bare line _ ih => rw [List.forall_mem_cons, List.forall_mem_cons, ih]

end CoveredBut

theorem margin_prefix {m n : Nat} (h : m ≤ n) : margin m <+: margin n :=
  ⟨List.replicate (2 * (n - m)) ' ', by rw [margin, margin, ← List.replicate_add]; congr 1; omega⟩

end Text

/-! ## Items -/

namespace Markup

/-- The line of a marker, with the text behind it. -/
def itemOpening (marker : String) (level : Nat) (text : Option String) : String :=
  Text.replicate (2 * level) ' ' ++ (marker ++ text.elim "" (" " ++ ·))

theorem item_eq (marker : String) (level : Nat) (text : Option String) (lines : List String) :
    item marker level text lines =
      Text.joinWith "\n" (itemOpening marker level text :: lines) := by
  cases text <;> simp [item, itemOpening, String.append_assoc]

theorem lines_itemOpening {marker : String} (hm : '\n' ∉ marker.toList) (level : Nat)
    (text : Option String) : ∃ first, Text.lines (itemOpening marker level text) =
      (Text.margin level ++ first) :: text.elim [] fun s => (Text.lines s).tail := by
  have hmargin : '\n' ∉ (Text.replicate (2 * level) ' ').toList := by simp [Text.replicate]
  cases text with
  | none =>
    have hmarker : Text.lines (marker ++ "") = [marker.toList] := by
      rw [String.append_empty]
      exact List.splitOn_eq_singleton hm
    refine ⟨marker.toList, (Text.lines_append hmargin hmarker).trans ?_⟩
    simp [Text.replicate, Text.margin]
  | some s =>
    obtain ⟨first, rest, hs⟩ := List.exists_cons_of_ne_nil (List.splitOn_ne_nil '\n' s.toList)
    have hspace : '\n' ∉ (marker ++ " ").toList := by simpa using hm
    have htext := Text.lines_append hspace hs
    rw [String.append_assoc] at htext
    refine ⟨(marker ++ " ").toList ++ first, (Text.lines_append hmargin htext).trans ?_⟩
    rw [Option.elim_some, Text.lines, hs]
    simp [Text.replicate, Text.margin]

end Markup

namespace Block

section

variable (refs : References) (note : NoteExpander Logged) (level : Nat)

theorem lines_itemText (marker : String) (item : List Block) :
    Text.lines (itemText refs note level marker item) =
      Text.lines (Markup.itemOpening marker level (openingText refs note item)) ++
        ((belowMarker item).flatMap (under refs note (level + 1))).flatMap Text.lines := by
  rw [itemText, Markup.item_eq, Text.lines_joinWith (List.cons_ne_nil _ _), List.flatMap_cons]

end

/-! ## Lines without a margin -/

mutual

/-- No list in this one, at any depth, lacks items, nor does this one. -/
def isFilled : Block → Bool
  | .list _ items => !items.isEmpty && itemsFilled items
  | _ => true

def itemsFilled : List (List Block) → Bool
  | [] => true
  | item :: items => allFilled item && itemsFilled items

def allFilled : List Block → Bool
  | [] => true
  | b :: bs => b.isFilled && allFilled bs

end

section

variable (refs : References) (note : NoteExpander Logged)

/-- The lines of the opening text of an item behind its first. -/
def openingContinuation (item : List Block) : List (List Char) :=
  (openingText refs note item).elim [] fun s => (Text.lines s).tail

mutual

/-- The lines that continue the opening text of an item of a list, at any depth of lists. -/
def continuations : Block → List (List Char)
  | .list _ items => itemsContinuations items
  | _ => []

def itemsContinuations : List (List Block) → List (List Char)
  | [] => []
  | item :: items =>
    openingContinuation refs note item ++ (allContinuations item ++ itemsContinuations items)

def allContinuations : List Block → List (List Char)
  | [] => []
  | b :: bs => b.continuations ++ allContinuations bs

end

theorem continuations_of_not_list {b : Block} (h : b.isList = false) :
    b.continuations refs note = [] := by
  cases b with
  | list => cases h
  | _ => rw [continuations]; simp

end

section

variable {refs : References} {note : NoteExpander Logged} {n : Nat}

/-- A block that is no list begins each of its lines with the margin. -/
theorem margin_prefix_of_not_list {b : Block} {level : Nat} {s : String} {line : List Char}
    (hn : n ≤ level) (hb : b.isList = false) (hs : (b.render refs note level).value = some s)
    (hline : line ∈ Text.lines s) : Text.margin n <+: line := by
  rw [value_render_level refs note level hb] at hs
  obtain ⟨t, -, rfl⟩ := Option.map_eq_some_iff.1 hs
  exact (Text.margin_prefix hn).trans (Text.margin_prefix_of_mem_lines hline)

theorem coveredBut_itemOpening {level : Nat} (hn : n ≤ level) (ordered : Bool) (item : List Block) :
    Text.CoveredBut (Text.margin n)
      (Text.lines (Markup.itemOpening (Markup.marker ordered) level (openingText refs note item)))
      (openingContinuation refs note item) := by
  obtain ⟨first, hlines⟩ := Markup.lines_itemOpening (newline_not_mem_marker ordered) level
    (openingText refs note item)
  rw [hlines]
  exact .covered ((Text.margin_prefix hn).trans (List.prefix_append _ _)) (.all_bare _ _)

mutual

theorem coveredBut_under {level : Nat} (hn : n ≤ level) : ∀ b : Block, b.isFilled →
    Text.CoveredBut (Text.margin n) ((under refs note level b).flatMap Text.lines)
      (b.continuations refs note)
  | .list ordered items, h => by
    rw [isFilled, Bool.and_eq_true, Bool.not_eq_true', List.isEmpty_eq_false_iff] at h
    have hitems : items.map (itemText refs note level (Markup.marker ordered)) ≠ [] := by
      simpa using h.1
    rw [under, value_render_list, continuations]
    simpa [isList, Text.lines_joinWith hitems] using coveredBut_items hn ordered items h.2
  | .heading _ _, _ | .paragraph _, _ | .frontmatter _, _ | .linkDefinition _ _, _
  | .footnoteDefinition _ _, _ | .codeBlock _ _, _ | .blockquote _, _ | .thematicBreak, _
  | .table _ _, _ | .mathBlock _, _ => by
    rw [continuations_of_not_list refs note rfl]
    refine .of_forall fun line hline => ?_
    obtain ⟨s, hs, hline⟩ := List.mem_flatMap.1 hline
    exact margin_prefix_of_not_list hn rfl (Option.mem_toList.1 (List.mem_filter.1 hs).1) hline

theorem coveredBut_items {level : Nat} (hn : n ≤ level) (ordered : Bool) : ∀ items : List (List Block),
    itemsFilled items → Text.CoveredBut (Text.margin n)
      ((items.map (itemText refs note level (Markup.marker ordered))).flatMap Text.lines)
      (itemsContinuations refs note items)
  | [], _ => by
    rw [itemsContinuations]
    exact .nil
  | item :: items, h => by
    rw [itemsFilled, Bool.and_eq_true] at h
    rw [List.map_cons, List.flatMap_cons, lines_itemText, itemsContinuations, List.append_assoc]
    refine (coveredBut_itemOpening hn ordered item).append (.append ?_ ?_)
    · have hall := h.1
      unfold belowMarker
      split
      next children rest =>
        -- The paragraph that opens the item leaves nothing below the marker.
        rw [allFilled, Bool.and_eq_true] at hall
        rw [allContinuations, continuations_of_not_list refs note rfl, List.nil_append]
        exact coveredBut_all (Nat.le_succ_of_le hn) rest hall.2
      next => exact coveredBut_all (Nat.le_succ_of_le hn) item hall
    · exact coveredBut_items hn ordered items h.2

theorem coveredBut_all {level : Nat} (hn : n ≤ level) : ∀ bs : List Block, allFilled bs →
    Text.CoveredBut (Text.margin n) ((bs.flatMap (under refs note level)).flatMap Text.lines)
      (allContinuations refs note bs)
  | [], _ => by
    rw [allContinuations]
    exact .nil
  | b :: bs, h => by
    rw [allFilled, Bool.and_eq_true] at h
    rw [List.flatMap_cons, List.flatMap_append, allContinuations]
    exact (coveredBut_under hn b h.1).append (coveredBut_all hn bs h.2)

end

/-- The lines of a block are covered but for the continuations in its items. -/
theorem coveredBut_render {level : Nat} (hn : n ≤ level) {b : Block} (h : b.isFilled) {out : String}
    (hout : (b.render refs note level).value = some out) :
    Text.CoveredBut (Text.margin n) (Text.lines out) (b.continuations refs note) := by
  by_cases hb : b.isList = true
  · have hunder : under refs note level b = [out] := by simp [under, hout, hb]
    have hcovered : Text.CoveredBut (Text.margin n)
        ((under refs note level b).flatMap Text.lines) (b.continuations refs note) :=
      coveredBut_under hn b h
    rwa [hunder, List.flatMap_singleton] at hcovered
  · rw [Bool.not_eq_true] at hb
    rw [continuations_of_not_list refs note hb]
    exact .of_forall fun line hline => margin_prefix_of_not_list hn hb hout hline

/-! ## Blocks that come to nothing -/

/-- Only metadata, definitions and tables without rows render to nothing. -/
theorem value_render_eq_none_iff {level : Nat} {b : Block} :
    (b.render refs note level).value = none ↔ b.isSilent := by
  cases b with
  | table align rows => cases rows <;> simp [render, renderTable, isSilent]
  | _ => simp [render, isSilent]

theorem items_eq_nil_of_value {level : Nat} {ordered : Bool} {items : List (List Block)}
    (h : ((list ordered items).render refs note level).value = some "") : items = [] := by
  cases items with
  | nil => rfl
  | cons item items =>
    rw [value_render_list, Option.some.injEq, List.map_cons, itemText, Markup.item_eq] at h
    have hempty := congrArg String.toList h
    rw [Text.toList_joinWith_cons, Text.toList_joinWith_cons] at hempty
    cases ordered <;> simp [Markup.itemOpening, Markup.marker] at hempty

/-- What a block that is empty at the outermost level leaves below a marker: nothing if it is never
shown, else a line with its margin, which a list does not have. -/
def emptyLines (level : Nat) (b : Block) : List (List Char) :=
  if b.isSilent then [] else if b.isList then [[]] else [Text.margin level]

theorem lines_under_of_empty {b : Block} (h : (b.render refs note 0).value.getD "" = "")
    (level : Nat) : (under refs note (level + 1) b).flatMap Text.lines = b.emptyLines (level + 1) := by
  unfold emptyLines
  by_cases hs : b.isSilent = true
  · rw [if_pos hs, under, value_render_eq_none_iff.2 hs]
    rfl
  · have hvalue : (b.render refs note 0).value = some "" := by
      obtain ⟨s, hb⟩ := Option.ne_none_iff_exists'.1 (mt value_render_eq_none_iff.1 hs)
      rw [hb, Option.getD_some] at h
      rw [hb, h]
    rw [if_neg hs]
    by_cases hl : b.isList = true
    · obtain ⟨ordered, items, rfl⟩ : ∃ ordered items, b = .list ordered items := by
        cases b with
        | list ordered items => exact ⟨ordered, items, rfl⟩
        | _ => cases hl
      obtain rfl := items_eq_nil_of_value hvalue
      rw [if_pos hl, under, value_render_list]
      rfl
    · rw [Bool.not_eq_true] at hl
      have hlines : Text.lines (Text.indent (level + 1) "") = [Text.margin (level + 1)] := by
        rw [Text.lines_indent]
        simp [Text.lines]
      rw [hl, under, value_render_level refs note _ hl, hvalue, Option.map_some]
      simp [Text.indent_succ_ne_empty, hlines]

variable (refs note) in
theorem lines_itemText_append (level : Nat) (marker : String) (first : Block)
    (before after : List Block) : Text.lines (itemText refs note level marker (first :: before ++ after)) =
      Text.lines (itemText refs note level marker (first :: before)) ++
        (after.flatMap (under refs note (level + 1))).flatMap Text.lines := by
  have hopening : openingText refs note (first :: before ++ after) =
      openingText refs note (first :: before) := by
    cases first <;> rfl
  have hbelow : belowMarker (first :: before ++ after) = belowMarker (first :: before) ++ after := by
    cases first <;> rfl
  rw [lines_itemText, lines_itemText, hopening, hbelow, List.flatMap_append, List.flatMap_append,
    List.append_assoc]

variable (refs note) in
theorem lines_render_list (ordered : Bool) (above below : List (List Block)) (first : Block)
    (before : List Block) (level : Nat) : ∃ upper lower, ∀ after, ∃ out,
      ((list ordered (above ++ (first :: before ++ after) :: below)).render refs note level).value =
        some out ∧
      Text.lines out =
        upper ++ ((after.flatMap (under refs note (level + 1))).flatMap Text.lines ++ lower) := by
  let text := itemText refs note level (Markup.marker ordered)
  refine ⟨(above.map text).flatMap Text.lines ++ Text.lines (text (first :: before)),
    (below.map text).flatMap Text.lines, fun after => ⟨_, value_render_list .., ?_⟩⟩
  rw [Text.lines_joinWith (by simp), List.map_append, List.map_cons, List.flatMap_append,
    List.flatMap_cons, lines_itemText_append]
  simp only [List.append_assoc, text]

theorem emptyLines_eq_nil_iff {level : Nat} {b : Block} : b.emptyLines level = [] ↔ b.isSilent := by
  by_cases hs : b.isSilent = true
  · simp [emptyLines, hs]
  · by_cases hl : b.isList = true <;> simp [emptyLines, hs, hl]

end

end Block

namespace Context

/-- **The margin of a level covers all lines but continuations.** Where no list in a block lacks
items, each line of its markup at a level begins with two spaces for every level, except the lines
that continue the paragraph that opens an item: these stand among the others as the paragraph has
them. So every line begins with the margin exactly if each of these happens to. -/
theorem margin_covers_but_continuations (c : Context) {b : Block} {level : Nat} {out : String}
    (hout : (c.renderBlock b level).1 = some out) (hfilled : b.isFilled) :
    let bare := b.continuations c.references c.expander
    Text.CoveredBut (List.replicate (2 * level) ' ') (Text.lines out) bare ∧
      ((∀ line ∈ Text.lines out, List.replicate (2 * level) ' ' <+: line) ↔
        ∀ line ∈ bare, List.replicate (2 * level) ' ' <+: line) := by
  intro bare
  have hcovered : Text.CoveredBut (List.replicate (2 * level) ' ') (Text.lines out) bare :=
    Block.coveredBut_render (Nat.le_refl level) hfilled hout
  exact ⟨hcovered, hcovered.forall_iff⟩

/-- Items of one paragraph each that goes over two lines, one below the other, and an empty item. -/
def nestedList : Block := .list true
  [[.paragraph [.text "a\nb"], .codeBlock none "x\ny",
    .list false [[.paragraph [.text "c", .lineBreak, .text "d"]], []]]]

theorem margin_covers_but_continuations_nestedList :
    let c : Context := {}
    let out := "  + a\nb\n    \x60\x60\x60\n    x\n    y\n    \x60\x60\x60\n    - c\\\nd\n    -"
    (c.renderBlock nestedList 1).1 = some out ∧ nestedList.isFilled ∧
      Text.CoveredBut [' ', ' '] (Text.lines out) [['b'], ['d']] := by
  intro c out
  have hout : (c.renderBlock nestedList 1).1 = some out := by decide +kernel
  have hfilled : nestedList.isFilled := by decide +kernel
  have hbare : nestedList.continuations c.references c.expander = [['b'], ['d']] := by
    decide +kernel
  obtain ⟨hcovered, -⟩ := margin_covers_but_continuations c hout hfilled
  rw [hbare] at hcovered
  exact ⟨hout, hfilled, hcovered⟩

/-- **The second line of an opening paragraph has no margin.** -/
theorem continuation_leaves_margin :
    let c : Context := {}
    let b : Block := .list false [[.paragraph [.text "a\nb"]]]
    (c.renderBlock b 1).1 = some "  - a\nb" ∧
      ¬ ∀ line ∈ Text.lines "  - a\nb", List.replicate 2 ' ' <+: line := by
  decide +kernel

/-- **An empty block leaves no trace in a list item exactly if it is never shown.** Let a block come
to nothing or to the empty text at the outermost level, and stand in an item behind its first block.
Without the block the item has the same lines, but for one if the block is a paragraph without
content or a list without items: for a paragraph a line of spaces, for a list an empty line. At the
root, and in a quote or a note, the block is dropped in any case. -/
theorem empty_block_traceless_iff (c : Context) (ordered : Bool) (above below : List (List Block))
    (first : Block) (before after : List Block) {b : Block} (level : Nat)
    (h : (c.renderBlock b 0).1.getD "" = "") :
    ∃ out without upper lower,
      (c.renderBlock (.list ordered (above ++ (first :: before ++ b :: after) :: below)) level).1 =
        some out ∧
      (c.renderBlock (.list ordered (above ++ (first :: before ++ after) :: below)) level).1 =
        some without ∧
      Text.lines without = upper ++ lower ∧
      Text.lines out = upper ++ (b.emptyLines (level + 1) ++ lower) ∧
      (out = without ↔ b.isSilent) ∧ ((c.renderBlock b 0).1 = none ↔ b.isSilent) ∧
      ∀ bs cs separator,
        Text.joinNonEmpty separator (Block.renderAll c.references c.expander 0 (bs ++ b :: cs)).value =
          Text.joinNonEmpty separator (Block.renderAll c.references c.expander 0 (bs ++ cs)).value := by
  obtain ⟨upper, lower, hlist⟩ :=
    Block.lines_render_list c.references c.expander ordered above below first before level
  obtain ⟨out, hout, hlines⟩ := hlist (b :: after)
  obtain ⟨without, hwithout, hlines'⟩ := hlist after
  rw [List.flatMap_cons, List.flatMap_append, Block.lines_under_of_empty h, List.append_assoc] at hlines
  refine ⟨out, without, upper, _, hout, hwithout, hlines', hlines, ?_,
    Block.value_render_eq_none_iff, fun bs cs separator => ?_⟩
  · rw [← Block.emptyLines_eq_nil_iff]
    constructor
    · intro he
      rw [he, hlines', List.append_cancel_left_eq] at hlines
      exact List.append_left_eq_self.1 hlines.symm
    · intro hnone
      rw [hnone, List.nil_append, ← hlines'] at hlines
      exact Text.eq_of_lines_eq hlines
  · rw [Document.value_renderAll, Document.value_renderAll, List.map_append, List.map_cons,
      List.map_append]
    exact Text.joinNonEmpty_append_cons separator h _ _

/-- A paragraph whose only reference is dropped, between two other blocks of an item. -/
theorem empty_block_traceless_iff_dropped :
    let c : Context := {}
    let b : Block := .paragraph [.footnoteReference "n"]
    (c.renderBlock b 0).1.getD "" = "" ∧ ∃ out without upper lower,
      (c.renderBlock (.list true [[.thematicBreak, b, .mathBlock "x"]]) 1).1 = some out ∧
      (c.renderBlock (.list true [[.thematicBreak, .mathBlock "x"]]) 1).1 = some without ∧
      Text.lines without = upper ++ lower ∧
      Text.lines out = upper ++ (List.replicate 4 ' ' :: lower) ∧ out ≠ without := by
  intro c b
  have hempty : (c.renderBlock b 0).1.getD "" = "" := by decide +kernel
  obtain ⟨out, without, upper, lower, hout, hwithout, hlines, hlines', hiff, -, -⟩ :=
    empty_block_traceless_iff c true [] [] .thematicBreak [] [.mathBlock "x"] 1 hempty
  exact ⟨hempty, out, without, upper, lower, hout, hwithout, hlines, hlines',
    fun he => Bool.false_ne_true (hiff.1 he)⟩

/-- **A paragraph without content and a list without items leave a line in an item.** -/
theorem empty_blocks_leave_lines :
    let c : Context := {}
    let item (rest : List Block) :=
      (c.renderBlock (.list false [.paragraph [.text "a"] :: rest]) 0).1
    item [] = some "- a" ∧
      (c.renderBlock (.paragraph []) 0).1 = some "" ∧ item [.paragraph []] = some "- a\n  " ∧
      (c.renderBlock (.list false []) 0).1 = some "" ∧ item [.list false []] = some "- a\n" := by
  decide +kernel

end Context

end Typeset
