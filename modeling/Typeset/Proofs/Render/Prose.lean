/-
Brackets in rendered trees.

A construct closes the brackets that it opens, whatever stands inside. So a
tree without code and formulas leaves as many brackets open as the notes that
its references expand to, all together. What trimming does to the end of a
note is said for itself: it may take what a backslash protects, and then the
bracket that closes the note is protected instead.
-/
import Typeset.Proofs.Markup.Brackets
import Typeset.Proofs.Render.Shown
import Typeset.Render.Footnote

namespace Typeset

open Markup (Leaves LeaveAll)

/-! ## Prose -/

mutual

/-- An inline without code and formulas. -/
def Inline.isProse : Inline → Bool
  | .inlineCode _ | .inlineMath _ => false
  | .text _ | .footnoteReference _ | .image _ _ | .lineBreak => true
  | .strong children | .emphasis children | .strike children | .highlight children
  | .subscript children | .superscript children | .link _ children
  | .linkReference _ _ children => Inline.areProse children

def Inline.areProse : List Inline → Bool
  | [] => true
  | i :: is => i.isProse && Inline.areProse is

end

mutual

/-- A block without code and formulas. What a definition holds is not rendered in its place. -/
def Block.isProse : Block → Bool
  | .codeBlock _ _ | .mathBlock _ => false
  | .frontmatter _ | .linkDefinition _ _ | .footnoteDefinition _ _ | .thematicBreak => true
  | .heading _ children | .paragraph children => Inline.areProse children
  | .list _ items => Block.itemsAreProse items
  | .blockquote children => Block.areProse children
  | .table _ rows => rows.flatten.all Inline.areProse

def Block.areProse : List Block → Bool
  | [] => true
  | b :: bs => b.isProse && Block.areProse bs

def Block.itemsAreProse : List (List Block) → Bool
  | [] => true
  | item :: items => Block.areProse item && Block.itemsAreProse items

end

/-! ## Constructs -/

namespace Markup

/-- Calling a function on content opens one bracket. -/
def Calls (function : String) : Prop :=
  ∀ depth, (Reading.mk (.markup []) depth).through? ('#' :: (function.toList ++ ['['])) =
    some ⟨.markup [], depth + 1⟩

theorem Calls.leaves {function : String} (hf : Calls function) :
    Leaves 1 ("#" ++ function ++ "[") := by
  intro depth
  simpa using hf depth

theorem Leaves.call {n : Nat} {function content : String} (h : Leaves n content)
    (hf : Calls function) : Leaves n (call function content) :=
  h.within hf.leaves fun _ => rfl

theorem leaves_image (url : String) : Leaves 0 (image url) := by
  have hclose : Leaves 0 ")" := fun _ => rfl
  exact (leaves_quote "#image(" (by decide) (fun _ => rfl) url).append hclose

theorem Leaves.link {n : Nat} {label : String} (h : Leaves n label) (url : String) :
    Leaves n (link url label) := by
  have hlabel : Leaves n (if Text.isBlankText label then escapeText url else label) := by
    split
    · rename_i hb
      exact h.eq_zero_of_isBlankText hb ▸ leaves_escapeText url
    · exact h
  have hopen : Leaves 1 ("#link(" ++ quote url ++ ")[") := by
    have hbracket : Leaves 1 ")[" := fun _ => rfl
    simpa using (leaves_quote "#link(" (by decide) (fun _ => rfl) url).append hbracket
  exact hlabel.within hopen fun _ => rfl

theorem Leaves.heading {n : Nat} {content : String} (h : Leaves n content) (depth : UInt8) :
    Leaves n (Text.replicate (headingLevel depth) '=' ++ " " ++ content) := by
  have hmarks : Leaves 0 (Text.replicate (headingLevel depth) '=') := leaves_replicate rfl _
  have hspace : Leaves 0 " " := fun _ => rfl
  simpa using (hmarks.append hspace).append h

theorem leaves_lineBreak : Leaves 0 "\\\n" := fun _ => rfl

theorem leaves_outline : Leaves 0 outline := fun _ => rfl

theorem leaves_thematicBreak : Leaves 0 thematicBreak := fun _ => rfl

theorem leaves_marker (ordered : Bool) : Leaves 0 (marker ordered) := by
  cases ordered <;> exact fun _ => rfl

theorem leaves_opening {marker : String} (hm : Leaves 0 marker) (level : Nat) :
    Leaves 0 (Text.replicate (2 * level) ' ' ++ marker) :=
  (leaves_replicate rfl _).append hm

theorem LeaveAll.item {n : Nat} {marker : String} {lines : List String} (hm : Leaves 0 marker)
    (level : Nat) (h : LeaveAll n lines) : Leaves n (item marker level none lines) := by
  have hall := LeaveAll.cons (leaves_opening hm level) h
  simpa [Markup.item] using hall.joinWith fun _ => rfl

theorem LeaveAll.item_text {n m : Nat} {marker text : String} {lines : List String}
    (hm : Leaves 0 marker) (level : Nat) (ht : Leaves n text) (h : LeaveAll m lines) :
    Leaves (n + m) (Markup.item marker level (some text) lines) := by
  have hspace : Leaves 0 " " := fun _ => rfl
  have hall := LeaveAll.cons (((leaves_opening hm level).append hspace).append ht) h
  simpa [Markup.item] using hall.joinWith fun _ => rfl

theorem Leaves.quoteBlock {n : Nat} {body : String} (h : Leaves n body) (level : Nat) :
    Leaves n (quoteBlock body level) := by
  have hopening : Leaves 1 (Text.indent level "#quote[") := Leaves.indent (fun _ => rfl) level
  have hclosing (depth : Nat) : (Reading.mk (.markup []) (depth + 1)).through?
      (Text.indent level "]").toList = some ⟨.markup [], depth⟩ :=
    (through?_indent (depth + 1) level "]").trans rfl
  have hnewline : Leaves 0 "\n" := fun _ => rfl
  unfold Markup.quoteBlock
  split
  · rename_i hb
    obtain rfl := h.eq_zero_of_isBlankText hb
    exact hnewline.within hopening hclosing
  · have hlines : Leaves n ("\n" ++ Text.indent (level + 1) body ++ "\n") := by
      simpa using (hnewline.append (h.indent (level + 1))).append hnewline
    simpa [Text.joinWith, String.append_assoc] using hlines.within hopening hclosing

theorem Leaves.headerCell {n : Nat} {s : String} (h : Leaves n s) : Leaves n ("[*" ++ s ++ "*]") :=
  h.within (fun _ => rfl) fun _ => rfl

theorem Leaves.cell {n : Nat} {s : String} (h : Leaves n s) : Leaves n ("[" ++ s ++ "]") :=
  h.within (fun _ => rfl) fun _ => rfl

theorem leaves_alignment (align : Option Align) : Leaves 0 (alignment align) := by
  cases align with
  | none => exact fun _ => rfl
  | some align => cases align <;> exact fun _ => rfl

theorem LeaveAll.table {n : Nat} {cells : List String} (h : LeaveAll n cells)
    (align : List (Option Align)) (columns : Nat) : Leaves n (table align columns cells) := by
  have hcomma : Leaves 0 ", " := fun _ => rfl
  have hnewline : Leaves 0 "\n" := fun _ => rfl
  have hclosing : Leaves 0 ")" := fun _ => rfl
  have hend : Leaves 0 ")," := fun _ => rfl
  have hargument {name : String} {values : List String} (hname : Leaves 0 name)
      (hvalues : ∀ s ∈ values, Leaves 0 s) :
      Leaves 0 (name ++ Text.joinWith ", " values ++ "),") :=
    (hname.append ((LeaveAll.of_forall hvalues).joinWith hcomma)).append hend
  have hcolumns : Leaves 0 "  columns: (" := fun _ => rfl
  have haligns : Leaves 0 "  align: (" := fun _ => rfl
  have hautos : ∀ s ∈ List.replicate columns "auto", Leaves 0 s := by
    intro s hs
    exact List.eq_of_mem_replicate hs ▸ fun _ => rfl
  have hnames : ∀ s ∈ (List.range columns).map fun i => alignment (align[i]?.join),
      Leaves 0 s := by
    intro s hs
    obtain ⟨i, -, rfl⟩ := List.mem_map.1 hs
    exact leaves_alignment _
  have hopening : Leaves 0 "#table(" := fun _ => rfl
  have hmargin : Leaves 0 "  " := fun _ => rfl
  have hlines := LeaveAll.cons hopening <| .cons (hargument hcolumns hautos) <|
    .cons (hargument haligns hnames) <| .cons (hmargin.append (h.joinWith hcomma)) <|
    .cons hclosing .nil
  simpa [Markup.table] using hlines.joinWith hnewline

/-- A note leaves what its body does, and the bracket that closes it where a backslash of the body
protects that. -/
theorem leaves_footnote {n : Nat} {parts : List (Option String)}
    (h : Leaves n (Text.joinNonEmpty " " parts)) :
    Leaves (n + if endsProtecting (Text.trimBlanks (Text.joinNonEmpty " " parts)) then 1 else 0)
      (footnote parts) := by
  intro depth
  have hopen : Calls "footnote" := fun _ => rfl
  obtain ⟨place, hplace, hends⟩ := h.trimBlanks (depth + 1)
  rw [footnote, call, String.toList_append, Reading.through?_append, String.toList_append,
    Reading.through?_append, hopen.leaves, Option.bind_some, hplace, Option.bind_some]
  obtain ⟨he, rfl⟩ | ⟨he, opening, rfl⟩ := hends
  · rw [he, if_pos rfl, show depth + (n + 1) = depth + 1 + n by omega]
    rfl
  · simp [he, Reading.through?_cons, Reading.next?]

end Markup

/-! ## Trees -/

/-- The brackets that references leave open, given those that notes do. -/
def Reference.left (w : String → Nat) : List Reference → Nat
  | [] => 0
  | .link _ :: rs => left w rs
  | .note identifier :: rs => w identifier + left w rs

namespace Reference

variable {w : String → Nat}

@[simp] theorem left_nil : left w [] = 0 := rfl

@[simp] theorem left_append (rs rs' : List Reference) :
    left w (rs ++ rs') = left w rs + left w rs' := by
  induction rs with
  | nil => simp
  | cons r rs ih => cases r <;> simp [left, ih, Nat.add_assoc]

/-- Nothing is left open exactly where no note leaves anything open. -/
theorem left_eq_zero_iff {rs : List Reference} :
    left w rs = 0 ↔ ∀ identifier, .note identifier ∈ rs → w identifier = 0 := by
  induction rs with
  | nil => simp
  | cons r rs ih => cases r <;> simp [left, ih]

end Reference

open Reference (left)

/-- What notes expand to leaves these numbers of brackets open. -/
def NotesLeave (note : NoteExpander Logged) (w : String → Nat) : Prop :=
  ∀ identifier, Leaves (w identifier) ((note identifier).value.getD "")

section

variable {refs : References} {note : NoteExpander Logged} {w : String → Nat}

mutual

theorem Inline.leaves_render (h : NotesLeave note w) :
    ∀ i : Inline, i.isProse = true → Leaves (left w i.shown) ((i.render refs note).value.getD "")
  | .text value, _ => Markup.leaves_escapeText value
  | .inlineCode _, hp | .inlineMath _, hp => by cases hp
  | .image url _, _ => Markup.leaves_image url
  | .lineBreak, _ => Markup.leaves_lineBreak
  | .strong children, hp => by
    have hmark : Leaves 0 "*" := fun _ => rfl
    simpa [Inline.render, Inline.shown] using
      (hmark.append (Inline.leaves_renderAll h children hp)).append hmark
  | .emphasis children, hp => by
    have hmark : Leaves 0 "_" := fun _ => rfl
    simpa [Inline.render, Inline.shown] using
      (hmark.append (Inline.leaves_renderAll h children hp)).append hmark
  | .strike children, hp => (Inline.leaves_renderAll h children hp).call fun _ => rfl
  | .highlight children, hp => (Inline.leaves_renderAll h children hp).call fun _ => rfl
  | .subscript children, hp => (Inline.leaves_renderAll h children hp).call fun _ => rfl
  | .superscript children, hp => (Inline.leaves_renderAll h children hp).call fun _ => rfl
  | .link url children, hp => (Inline.leaves_renderAll h children hp).link url
  | .linkReference identifier label children, hp => by
    have hchildren := Inline.leaves_renderAll h children hp
    have hshown : left w (Inline.linkReference identifier label children).shown =
        left w (Inline.shownAll children) := by
      simp [Inline.shown, left]
    rw [hshown, Inline.render, Logged.value_bind]
    cases refs.url? identifier with
    | some url => exact hchildren.link url
    | none =>
      simp only [Logged.value_bind, Logged.value_pure, Option.getD_some]
      split
      · rename_i he
        -- What has no text leaves nothing open.
        rw [String.isEmpty_iff.1 he] at hchildren
        exact hchildren.unique Markup.leaves_empty ▸ Markup.leaves_escapeText _
      · exact hchildren
  | .footnoteReference identifier, _ => by
    simpa [Inline.render, Inline.shown, left] using h identifier

theorem Inline.leaves_renderAll (h : NotesLeave note w) :
    ∀ is : List Inline, Inline.areProse is = true →
      Leaves (left w (Inline.shownAll is)) (Inline.renderAll refs note is).value
  | [], _ => Markup.leaves_empty
  | i :: is, hp => by
    obtain ⟨hi, his⟩ : i.isProse = true ∧ Inline.areProse is = true := by
      simpa [Inline.areProse] using hp
    simpa [Inline.renderAll, Inline.shownAll] using
      (Inline.leaves_render h i hi).append (Inline.leaves_renderAll h is his)

end

theorem Inline.leaves_renderEach (h : NotesLeave note w) {cells : List (List Inline)}
    (hp : cells.all Inline.areProse = true) :
    LeaveAll (left w (cells.flatMap Inline.shownAll))
      (Inline.renderEach refs note cells).value := by
  induction cells with
  | nil => exact .nil
  | cons cell cells ih =>
    obtain ⟨hcell, hcells⟩ : Inline.areProse cell = true ∧ cells.all Inline.areProse = true := by
      simpa using hp
    simpa [Inline.renderEach] using LeaveAll.cons (Inline.leaves_renderAll h cell hcell) (ih hcells)

theorem Inline.leaves_renderParagraph (h : NotesLeave note w) {children : List Inline}
    (hp : Inline.areProse children = true) :
    Leaves (left w ((Block.paragraph children).shown refs))
      (Inline.renderParagraph refs note children).value := by
  rw [Block.shown]
  by_cases ho : Inline.isOutline refs children
  · simpa [Inline.renderParagraph_eq, ho] using Markup.leaves_outline
  · simpa [Inline.renderParagraph_eq, ho] using Inline.leaves_renderAll h children hp

theorem leaves_renderTable (h : NotesLeave note w) (align : List (Option Align))
    {rows : List (List (List Inline))} (hp : rows.flatten.all Inline.areProse = true)
    (level : Nat) : Leaves (left w (rows.flatten.flatMap Inline.shownAll))
      ((renderTable refs note align rows level).value.getD "") := by
  cases rows with
  | nil => exact Markup.leaves_empty
  | cons header body =>
    obtain ⟨hheader, hbody⟩ : header.all Inline.areProse = true ∧
        body.flatten.all Inline.areProse = true := by
      simpa [or_imp, forall_and] using hp
    have hheads : LeaveAll _ (Inline.renderEach refs note header).value :=
      Inline.leaves_renderEach h hheader
    have hcells : LeaveAll _ (Inline.renderEach refs note body.flatten).value :=
      Inline.leaves_renderEach h hbody
    have hwritten := (hheads.map Markup.Leaves.headerCell).append (hcells.map Markup.Leaves.cell)
    simpa [renderTable] using (hwritten.table align header.length).indent level

mutual

theorem Block.leaves_render (h : NotesLeave note w) (level : Nat) : ∀ b : Block,
    b.isProse = true → Leaves (left w (b.shown refs)) ((b.render refs note level).value.getD "")
  | .frontmatter _, _ | .linkDefinition _ _, _ | .footnoteDefinition _ _, _ => by
    simpa [Block.render, Block.shown] using Markup.leaves_empty
  | .codeBlock _ _, hp | .mathBlock _, hp => by cases hp
  | .thematicBreak, _ => Markup.leaves_thematicBreak.indent level
  | .heading depth children, hp =>
    ((Inline.leaves_renderAll h children hp).heading depth).indent level
  | .paragraph children, hp => (Inline.leaves_renderParagraph h hp).indent level
  | .list ordered items, hp =>
    (Block.leaves_renderItems h (Markup.leaves_marker ordered) level items hp).joinWith fun _ => rfl
  | .blockquote children, hp =>
    ((Block.leaves_renderAll h 0 children hp).joinNonEmpty fun _ => rfl).quoteBlock level
  | .table align _, hp => leaves_renderTable h align hp level

theorem Block.leaves_renderAll (h : NotesLeave note w) (level : Nat) : ∀ bs : List Block,
    Block.areProse bs = true → LeaveAll (left w (Block.shownAll refs bs))
      ((Block.renderAll refs note level bs).value.map (·.getD ""))
  | [], _ => .nil
  | b :: bs, hp => by
    obtain ⟨hb, hbs⟩ : b.isProse = true ∧ Block.areProse bs = true := by
      simpa [Block.areProse] using hp
    simpa [Block.renderAll, Block.shownAll] using
      LeaveAll.cons (Block.leaves_render h level b hb) (Block.leaves_renderAll h level bs hbs)

theorem Block.leaves_renderItems (h : NotesLeave note w) {marker : String}
    (hm : Leaves 0 marker) (level : Nat) : ∀ items : List (List Block),
      Block.itemsAreProse items = true → LeaveAll (left w (Block.shownItems refs items))
        (Block.renderItems refs note marker level items).value
  | [], _ => .nil
  | item :: items, hp => by
    obtain ⟨hitem, hitems⟩ : Block.areProse item = true ∧ Block.itemsAreProse items = true := by
      simpa [Block.itemsAreProse] using hp
    have hothers := Block.leaves_renderItems h hm level items hitems
    by_cases hpar : ∃ children rest, item = .paragraph children :: rest
    · obtain ⟨children, rest, rfl⟩ := hpar
      obtain ⟨hchildren, hrest⟩ : Inline.areProse children = true ∧ Block.areProse rest = true := by
        simpa [Block.areProse, Block.isProse] using hitem
      have htext : Leaves _ (Inline.renderParagraph refs note children).value :=
        Inline.leaves_renderParagraph h hchildren
      have hlines := Block.leaves_renderTail h (level + 1) rest hrest
      simpa [Block.renderItems, Block.shownItems, Block.shownAll, Nat.add_assoc] using
        LeaveAll.cons (Markup.LeaveAll.item_text hm level htext hlines) hothers
    · rw [Block.renderItems_cons _ _ _ _ _ fun children rest he => hpar ⟨children, rest, he⟩]
      have hlines := Block.leaves_renderTail h (level + 1) item hitem
      simpa [Block.shownItems] using LeaveAll.cons (hlines.item hm level) hothers

theorem Block.leaves_renderTail (h : NotesLeave note w) (level : Nat) : ∀ bs : List Block,
    Block.areProse bs = true → LeaveAll (left w (Block.shownAll refs bs))
      (Block.renderTail refs note level bs).value
  | [], _ => .nil
  | b :: rest, hp => by
    obtain ⟨hb, hrest⟩ : b.isProse = true ∧ Block.areProse rest = true := by
      simpa [Block.areProse] using hp
    have hothers := Block.leaves_renderTail h level rest hrest
    by_cases hl : ∃ ordered items, b = .list ordered items
    · obtain ⟨ordered, items, rfl⟩ := hl
      have hlines := Block.leaves_renderItems h (Markup.leaves_marker ordered) level items hb
      simpa [Block.renderTail, Block.shownAll, Block.shown] using
        LeaveAll.cons (hlines.joinWith fun _ => rfl) hothers
    · rw [Block.renderTail_cons _ _ _ _ fun ordered items he => hl ⟨ordered, items, he⟩]
      have hfirst := Block.leaves_render h level b hb
      simp only [Block.shownAll, Reference.left_append, Logged.value_bind, Logged.value_pure]
      exact (LeaveAll.ofOption hfirst).append hothers

end

end

end Typeset
