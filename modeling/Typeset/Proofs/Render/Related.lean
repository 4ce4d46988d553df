/-
The same rendering with two kinds of steps.

Rendering only returns values, takes one step after another, warns and expands
notes, and of the definitions it looks up the URLs. So a relation between two
kinds of steps that these respect relates the two renderings of every node, over
any tables that give the same URLs: what is shown once for a note reference
holds of whole trees.
-/
import Typeset.Render.Block

namespace Typeset

/-! ## The same URLs -/

/-- Two tables with the same URL for every link identifier. -/
def References.SameUrls (refs refs' : References) : Prop :=
  ∀ identifier, refs.url? identifier = refs'.url? identifier

mutual

theorem Inline.plainText_of_sameUrls {refs refs' : References} (hu : refs.SameUrls refs') :
    ∀ i : Inline, i.plainText refs = i.plainText refs'
  | .strong children | .emphasis children | .link _ children => by
    rw [Inline.plainText, Inline.plainText, Inline.plainTexts_of_sameUrls hu children]
  | .linkReference identifier _ children => by
    rw [Inline.plainText, Inline.plainText, Inline.plainTexts_of_sameUrls hu children,
      hu identifier]
  | .text _ | .inlineCode _ | .lineBreak | .strike _ | .highlight _ | .subscript _
  | .superscript _ | .inlineMath _ | .footnoteReference _ | .image _ _ => by
    rw [Inline.plainText, Inline.plainText]

theorem Inline.plainTexts_of_sameUrls {refs refs' : References} (hu : refs.SameUrls refs') :
    ∀ is : List Inline, Inline.plainTexts refs is = Inline.plainTexts refs' is
  | [] => rfl
  | i :: is => by
    rw [Inline.plainTexts, Inline.plainTexts, Inline.plainText_of_sameUrls hu i,
      Inline.plainTexts_of_sameUrls hu is]

end

/-! ## Relations that rendering keeps -/

/-- A relation between steps of two kinds, kept by what rendering is made of. -/
structure StepRelation (m n : Type → Type) [Monad m] [MonadWarn m] [Monad n] [MonadWarn n] where
  rel : {α : Type} → m α → n α → Prop
  pure {α : Type} (a : α) : rel (pure a) (pure a)
  bind {α β : Type} {x : m α} {y : n α} {f : α → m β} {g : α → n β} :
    rel x y → (∀ a, rel (f a) (g a)) → rel (x >>= f) (y >>= g)
  warn (w : Warning) : rel (MonadWarn.warn w) (MonadWarn.warn w)

namespace StepRelation

variable {m n : Type → Type} [Monad m] [MonadWarn m] [Monad n] [MonadWarn n]
  {refs refs' : References} {e : NoteExpander m} {e' : NoteExpander n}

theorem wrap (R : StepRelation m n) {α β : Type} {x : m α} {y : n α} (h : R.rel x y) (f : α → β) :
    R.rel (do return f (← x)) (do return f (← y)) :=
  R.bind h fun _ => R.pure _

/-- Tables with the same URLs, and expanders that are related for every reference. -/
structure Alike (R : StepRelation m n) (refs refs' : References) (e : NoteExpander m)
    (e' : NoteExpander n) : Prop where
  urls : refs.SameUrls refs'
  notes : ∀ id, R.rel (e id) (e' id)

namespace Alike

variable {R : StepRelation m n}

/-! ## Phrasing content -/

mutual

theorem inline (h : R.Alike refs refs' e e') :
    ∀ i : Inline, R.rel (i.render refs e) (i.render refs' e')
  | .text _ | .inlineCode _ | .inlineMath _ | .image _ _ | .lineBreak => by
    simp only [Inline.render]
    exact R.pure _
  | .strong children | .emphasis children | .strike children | .highlight children
  | .subscript children | .superscript children | .link _ children => by
    simp only [Inline.render]
    exact R.wrap (h.inlines children) _
  | .linkReference identifier _ children => by
    simp only [Inline.render]
    refine R.bind (h.inlines children) fun text => ?_
    rw [h.urls identifier]
    cases refs'.url? identifier with
    | some url => exact R.pure _
    | none => exact R.bind (R.warn _) fun _ => R.pure _
  | .footnoteReference identifier => by
    simp only [Inline.render]
    exact h.notes identifier

theorem inlines (h : R.Alike refs refs' e e') :
    ∀ is : List Inline, R.rel (Inline.renderAll refs e is) (Inline.renderAll refs' e' is)
  | [] => by
    simp only [Inline.renderAll]
    exact R.pure _
  | i :: is => by
    simp only [Inline.renderAll]
    exact R.bind (h.inline i) fun _ => R.wrap (h.inlines is) _

end

theorem cells (h : R.Alike refs refs' e e') (cells : List (List Inline)) :
    R.rel (Inline.renderEach refs e cells) (Inline.renderEach refs' e' cells) := by
  induction cells with
  | nil => exact R.pure _
  | cons cell cells ih => exact R.bind (h.inlines cell) fun _ => R.wrap ih _

theorem paragraph (h : R.Alike refs refs' e e') (children : List Inline) :
    R.rel (Inline.renderParagraph refs e children) (Inline.renderParagraph refs' e' children) := by
  simp only [Inline.renderParagraph, Inline.plainTexts_of_sameUrls h.urls]
  split
  · exact R.pure _
  · exact h.inlines children

theorem table (h : R.Alike refs refs' e e') (align : List (Option Align))
    (rows : List (List (List Inline))) (level : Nat) :
    R.rel (renderTable refs e align rows level) (renderTable refs' e' align rows level) := by
  cases rows with
  | nil => exact R.pure _
  | cons header body =>
    exact R.bind (h.cells header) fun _ => R.wrap (h.cells body.flatten) _

/-! ## Blocks -/

mutual

theorem block (h : R.Alike refs refs' e e') (level : Nat) :
    ∀ b : Block, R.rel (b.render refs e level) (b.render refs' e' level)
  | .frontmatter _ | .linkDefinition _ _ | .footnoteDefinition _ _ | .codeBlock _ _
  | .thematicBreak | .mathBlock _ => by
    simp only [Block.render]
    exact R.pure _
  | .heading _ children => by
    simp only [Block.render]
    exact R.wrap (h.inlines children) _
  | .paragraph children => by
    simp only [Block.render]
    exact R.wrap (h.paragraph children) _
  | .list _ items => by
    simp only [Block.render]
    exact R.wrap (h.blockItems _ level items) _
  | .blockquote children => by
    simp only [Block.render]
    exact R.wrap (h.blocks 0 children) _
  | .table align rows => by
    simp only [Block.render]
    exact h.table align rows level

theorem blocks (h : R.Alike refs refs' e e') (level : Nat) :
    ∀ bs : List Block, R.rel (Block.renderAll refs e level bs) (Block.renderAll refs' e' level bs)
  | [] => by
    simp only [Block.renderAll]
    exact R.pure _
  | b :: bs => by
    simp only [Block.renderAll]
    exact R.bind (h.block level b) fun _ => R.wrap (h.blocks level bs) _

theorem blockItems (h : R.Alike refs refs' e e') (marker : String)
    (level : Nat) : ∀ items : List (List Block),
      R.rel (Block.renderItems refs e marker level items)
        (Block.renderItems refs' e' marker level items)
  | [] => by
    simp only [Block.renderItems]
    exact R.pure _
  | item :: items => by
    -- The renderer's own cases: an item that opens with a paragraph, and any other.
    by_cases hp : ∃ children rest, item = .paragraph children :: rest
    · obtain ⟨children, rest, rfl⟩ := hp
      simp only [Block.renderItems]
      exact R.bind (h.paragraph children) fun _ =>
        R.bind (h.blockTail (level + 1) rest) fun _ =>
          R.wrap (h.blockItems marker level items) _
    · have hp' : ∀ children rest, item ≠ .paragraph children :: rest :=
        fun children rest he => hp ⟨children, rest, he⟩
      rw [Block.renderItems_cons _ _ _ _ _ hp', Block.renderItems_cons _ _ _ _ _ hp']
      exact R.bind (h.blockTail (level + 1) item) fun _ =>
        R.wrap (h.blockItems marker level items) _

theorem blockTail (h : R.Alike refs refs' e e') (level : Nat) :
    ∀ bs : List Block, R.rel (Block.renderTail refs e level bs) (Block.renderTail refs' e' level bs)
  | [] => by
    simp only [Block.renderTail]
    exact R.pure _
  | b :: rest => by
    by_cases hl : ∃ ordered items, b = .list ordered items
    · obtain ⟨ordered, items, rfl⟩ := hl
      simp only [Block.renderTail]
      exact R.bind (h.blockItems _ level items) fun _ => R.wrap (h.blockTail level rest) _
    · have hl' : ∀ ordered items, b ≠ .list ordered items :=
        fun ordered items he => hl ⟨ordered, items, he⟩
      rw [Block.renderTail_cons _ _ _ _ hl', Block.renderTail_cons _ _ _ _ hl']
      exact R.bind (h.block level b) fun _ => R.wrap (h.blockTail level rest) _

end

end Alike

/-! ## Over one table -/

theorem inline (R : StepRelation m n) (h : ∀ id, R.rel (e id) (e' id)) (i : Inline) :
    R.rel (i.render refs e) (i.render refs e') :=
  Alike.inline ⟨fun _ => rfl, h⟩ i

theorem inlines (R : StepRelation m n) (h : ∀ id, R.rel (e id) (e' id)) (is : List Inline) :
    R.rel (Inline.renderAll refs e is) (Inline.renderAll refs e' is) :=
  Alike.inlines ⟨fun _ => rfl, h⟩ is

theorem block (R : StepRelation m n) (h : ∀ id, R.rel (e id) (e' id)) (level : Nat) (b : Block) :
    R.rel (b.render refs e level) (b.render refs e' level) :=
  Alike.block ⟨fun _ => rfl, h⟩ level b

theorem blocks (R : StepRelation m n) (h : ∀ id, R.rel (e id) (e' id)) (level : Nat)
    (bs : List Block) : R.rel (Block.renderAll refs e level bs) (Block.renderAll refs e' level bs) :=
  Alike.blocks ⟨fun _ => rfl, h⟩ level bs

end StepRelation

end Typeset
