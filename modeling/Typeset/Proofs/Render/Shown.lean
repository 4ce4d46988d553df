/-
The references that rendering meets.

`shown` lists the reference nodes of a tree that are rendered, in the order in
which they are: none in a definition or in a paragraph that gives way to the
outline. `warnings_render` and its kin say that rendering warns about nothing
else: the warnings of a tree are those of its shown references, one after
another.
-/
import Typeset.Proofs.Render.Related

namespace Typeset

/-- A reference node. -/
inductive Reference where
  | link (identifier : String)
  | note (identifier : String)
  deriving DecidableEq

mutual

/-- The references in an inline. -/
def Inline.shown : Inline → List Reference
  | .text _ | .inlineCode _ | .inlineMath _ | .image _ _ | .lineBreak => []
  | .strong children | .emphasis children | .strike children | .highlight children
  | .subscript children | .superscript children | .link _ children => Inline.shownAll children
  | .linkReference identifier _ children => Inline.shownAll children ++ [.link identifier]
  | .footnoteReference identifier => [.note identifier]

def Inline.shownAll : List Inline → List Reference
  | [] => []
  | i :: is => i.shown ++ Inline.shownAll is

end

/-- Whether a paragraph gives way to the outline. -/
def Inline.isOutline (refs : References) (children : List Inline) : Prop :=
  Text.lowercase (Text.trimBlanks (Inline.plainTexts refs children)) = "[toc]"

instance (refs : References) (children : List Inline) :
    Decidable (Inline.isOutline refs children) :=
  inferInstanceAs (Decidable (_ = _))

/-- A paragraph that gives way to the outline renders to it, and any other to its run. -/
theorem Inline.renderParagraph_eq {m : Type → Type} [Monad m] [MonadWarn m] (refs : References)
    (note : NoteExpander m) (children : List Inline) : Inline.renderParagraph refs note children =
      if Inline.isOutline refs children then pure Markup.outline
      else Inline.renderAll refs note children := by
  by_cases h : Inline.isOutline refs children
  · rw [if_pos h, Inline.renderParagraph, if_pos (beq_iff_eq.2 h)]
  · rw [if_neg h, Inline.renderParagraph, if_neg (mt beq_iff_eq.1 h)]

mutual

/-- The references in a block that rendering meets. -/
def Block.shown (refs : References) : Block → List Reference
  | .frontmatter _ | .linkDefinition _ _ | .footnoteDefinition _ _ | .codeBlock _ _
  | .thematicBreak | .mathBlock _ => []
  | .heading _ children => Inline.shownAll children
  | .paragraph children => if Inline.isOutline refs children then [] else Inline.shownAll children
  | .list _ items => Block.shownItems refs items
  | .blockquote children => Block.shownAll refs children
  | .table _ rows => rows.flatten.flatMap Inline.shownAll

def Block.shownAll (refs : References) : List Block → List Reference
  | [] => []
  | b :: bs => b.shown refs ++ Block.shownAll refs bs

def Block.shownItems (refs : References) : List (List Block) → List Reference
  | [] => []
  | item :: items => Block.shownAll refs item ++ Block.shownItems refs items

end

theorem Block.mem_shownAll {refs : References} {bs : List Block} {r : Reference} :
    r ∈ Block.shownAll refs bs ↔ ∃ b ∈ bs, r ∈ b.shown refs := by
  induction bs with
  | nil => simp [shownAll]
  | cons b bs ih => simp [shownAll, ih]

/-- What rendering warns about at a reference, given how notes expand. -/
def Reference.warnings (refs : References) (note : NoteExpander Logged) : Reference → List Warning
  | .link identifier => if (refs.url? identifier).isNone then [.unresolvedLink identifier] else []
  | .note identifier => (note identifier).warnings

/-! ## Phrasing content -/

section

variable {refs : References} {note : NoteExpander Logged}

mutual

theorem Inline.warnings_render :
    ∀ i : Inline, (i.render refs note).warnings = i.shown.flatMap (Reference.warnings refs note)
  | .text _ | .inlineCode _ | .inlineMath _ | .image _ _ | .lineBreak => by
    simp [Inline.render, Inline.shown]
  | .strong children | .emphasis children | .strike children | .highlight children
  | .subscript children | .superscript children | .link _ children => by
    simp [Inline.render, Inline.shown, Inline.warnings_renderAll children]
  | .linkReference identifier label children => by
    rw [Inline.render, Inline.shown, Logged.warnings_bind, Inline.warnings_renderAll children,
      List.flatMap_append]
    cases h : refs.url? identifier <;> simp [Reference.warnings, h]
  | .footnoteReference identifier => by
    simp [Inline.render, Inline.shown, Reference.warnings]

theorem Inline.warnings_renderAll : ∀ is : List Inline,
    (Inline.renderAll refs note is).warnings =
      (Inline.shownAll is).flatMap (Reference.warnings refs note)
  | [] => by simp [Inline.renderAll, Inline.shownAll]
  | i :: is => by
    simp [Inline.renderAll, Inline.shownAll, Inline.warnings_render i, Inline.warnings_renderAll is]

end

theorem Inline.warnings_renderEach (cells : List (List Inline)) :
    (Inline.renderEach refs note cells).warnings =
      (cells.flatMap Inline.shownAll).flatMap (Reference.warnings refs note) := by
  induction cells with
  | nil => simp [Inline.renderEach]
  | cons cell cells ih => simp [Inline.renderEach, Inline.warnings_renderAll, ih]

theorem Inline.warnings_renderParagraph (children : List Inline) :
    (Inline.renderParagraph refs note children).warnings =
      (if Inline.isOutline refs children then [] else Inline.shownAll children).flatMap
        (Reference.warnings refs note) := by
  by_cases h : Inline.isOutline refs children
  · simp [Inline.renderParagraph_eq, h]
  · simp [Inline.renderParagraph_eq, h, Inline.warnings_renderAll]

/-! ## Blocks -/

theorem warnings_renderTable (align : List (Option Align)) (rows : List (List (List Inline)))
    (level : Nat) : (renderTable refs note align rows level).warnings =
      (rows.flatten.flatMap Inline.shownAll).flatMap (Reference.warnings refs note) := by
  cases rows with
  | nil => simp [renderTable]
  | cons header body => simp [renderTable, Inline.warnings_renderEach]

mutual

theorem Block.warnings_render (level : Nat) : ∀ b : Block,
    (b.render refs note level).warnings = (b.shown refs).flatMap (Reference.warnings refs note)
  | .frontmatter _ | .linkDefinition _ _ | .footnoteDefinition _ _ | .codeBlock _ _
  | .thematicBreak | .mathBlock _ => by
    simp [Block.render, Block.shown]
  | .heading _ children => by
    simp [Block.render, Block.shown, Inline.warnings_renderAll]
  | .paragraph children => by
    simp [Block.render, Block.shown, Inline.warnings_renderParagraph]
  | .list _ items => by
    simp [Block.render, Block.shown, Block.warnings_renderItems _ level items]
  | .blockquote children => by
    simp [Block.render, Block.shown, Block.warnings_renderAll 0 children]
  | .table align rows => by
    simp only [Block.render, Block.shown, warnings_renderTable]

theorem Block.warnings_renderAll (level : Nat) : ∀ bs : List Block,
    (Block.renderAll refs note level bs).warnings =
      (Block.shownAll refs bs).flatMap (Reference.warnings refs note)
  | [] => by simp [Block.renderAll, Block.shownAll]
  | b :: bs => by
    simp [Block.renderAll, Block.shownAll, Block.warnings_render level b,
      Block.warnings_renderAll level bs]

theorem Block.warnings_renderItems (marker : String) (level : Nat) : ∀ items : List (List Block),
    (Block.renderItems refs note marker level items).warnings =
      (Block.shownItems refs items).flatMap (Reference.warnings refs note)
  | [] => by simp [Block.renderItems, Block.shownItems]
  | item :: items => by
    by_cases hp : ∃ children rest, item = .paragraph children :: rest
    · obtain ⟨children, rest, rfl⟩ := hp
      simp [Block.renderItems, Block.shownItems, Block.shownAll, Block.shown,
        Inline.warnings_renderParagraph, Block.warnings_renderTail (level + 1) rest,
        Block.warnings_renderItems marker level items]
    · rw [Block.renderItems_cons _ _ _ _ _ fun children rest he => hp ⟨children, rest, he⟩]
      simp [Block.shownItems, Block.warnings_renderTail (level + 1) item,
        Block.warnings_renderItems marker level items]

theorem Block.warnings_renderTail (level : Nat) : ∀ bs : List Block,
    (Block.renderTail refs note level bs).warnings =
      (Block.shownAll refs bs).flatMap (Reference.warnings refs note)
  | [] => by simp [Block.renderTail, Block.shownAll]
  | b :: rest => by
    by_cases hl : ∃ ordered items, b = .list ordered items
    · obtain ⟨ordered, items, rfl⟩ := hl
      simp [Block.renderTail, Block.shownAll, Block.shown, Block.warnings_renderItems _ level items,
        Block.warnings_renderTail level rest]
    · rw [Block.renderTail_cons _ _ _ _ fun ordered items he => hl ⟨ordered, items, he⟩]
      simp [Block.shownAll, Block.warnings_render level b, Block.warnings_renderTail level rest]

end

end

end Typeset
