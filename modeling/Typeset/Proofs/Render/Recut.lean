/-
Text that is cut into leaves in other places.

A run of inlines may hold a text as one leaf or as several side by side, and
leaves that hold no text. Markup and plain text only follow the characters, so
no cut shows: neither in the run nor in what holds the run, up to the file, the
title that a heading gives it, and the warnings.
-/
import Mathlib.Logic.Relation
import Typeset.Proofs.Render.Interchange

namespace Typeset

/-! ## Cuts -/

namespace Inline

/-- The inlines that hold a run, by the run that they hold. -/
inductive Container : (List Inline → Inline) → Prop
  | strong : Container .strong
  | emphasis : Container .emphasis
  | strike : Container .strike
  | highlight : Container .highlight
  | subscript : Container .subscript
  | superscript : Container .superscript
  | link (url : String) : Container (.link url)
  | linkReference (identifier : String) (label : Option String) :
      Container (.linkReference identifier label)

/-- One run has one cut more than the other: two leaves side by side where the other has one, or
a leaf without text. It may be in the run itself or at any depth below. -/
inductive Joined : List Inline → List Inline → Prop
  | texts (before after : List Inline) (s t : String) :
      Joined (before ++ .text s :: .text t :: after) (before ++ .text (s ++ t) :: after)
  | empty (before after : List Inline) : Joined (before ++ .text "" :: after) (before ++ after)
  | inside {wrap : List Inline → Inline} {is js : List Inline} (before after : List Inline)
      (hw : Container wrap) (h : Joined is js) :
      Joined (before ++ wrap is :: after) (before ++ wrap js :: after)

end Inline

/-- One block has one cut more than the other, in a run that it holds at any depth. -/
inductive Block.Joined : Block → Block → Prop
  | heading {is js : List Inline} (depth : UInt8) (h : Inline.Joined is js) :
      Joined (.heading depth is) (.heading depth js)
  | paragraph {is js : List Inline} (h : Inline.Joined is js) :
      Joined (.paragraph is) (.paragraph js)
  | cell {is js : List Inline} (align : List (Option Align)) (above below : List (List (List Inline)))
      (left right : List (List Inline)) (h : Inline.Joined is js) :
      Joined (.table align (above ++ (left ++ is :: right) :: below))
        (.table align (above ++ (left ++ js :: right) :: below))
  | item {b c : Block} (ordered : Bool) (above below : List (List Block))
      (before after : List Block) (h : Joined b c) :
      Joined (.list ordered (above ++ (before ++ b :: after) :: below))
        (.list ordered (above ++ (before ++ c :: after) :: below))
  | blockquote {b c : Block} (before after : List Block) (h : Joined b c) :
      Joined (.blockquote (before ++ b :: after)) (.blockquote (before ++ c :: after))
  | footnoteDefinition {b c : Block} (identifier : String) (before after : List Block)
      (h : Joined b c) :
      Joined (.footnoteDefinition identifier (before ++ b :: after))
        (.footnoteDefinition identifier (before ++ c :: after))

/-- One document has one cut more than the other. -/
inductive Document.Joined : Document → Document → Prop
  | block {b c : Block} (before after : List Block) (h : Block.Joined b c) :
      Joined ⟨before ++ b :: after⟩ ⟨before ++ c :: after⟩

/-! ## Runs of inlines -/

namespace Inline

/-- Runs that come to the same markup and to the same plain text. -/
structure SameMarkup (is js : List Inline) : Prop where
  markup : ∀ (refs : References) (note : NoteExpander Logged),
    renderAll refs note is = renderAll refs note js
  text : ∀ refs, plainTexts refs is = plainTexts refs js

namespace SameMarkup

variable {is js : List Inline}

theorem refl (is : List Inline) : SameMarkup is is := ⟨fun _ _ => rfl, fun _ => rfl⟩

theorem behind (h : SameMarkup is js) (before : List Inline) :
    SameMarkup (before ++ is) (before ++ js) := by
  induction before with
  | nil => exact h
  | cons i before ih =>
    constructor
    · intro refs note
      simp only [List.cons_append, renderAll, ih.markup]
    · intro refs
      simp only [List.cons_append, plainTexts, ih.text]

/-- The same construct around two runs, and the same behind it. -/
theorem inside (h : SameMarkup is js) {wrap : List Inline → Inline} (hw : Container wrap)
    (after : List Inline) : SameMarkup (wrap is :: after) (wrap js :: after) := by
  constructor
  · intro refs note
    have hone : (wrap is).render refs note = (wrap js).render refs note := by
      cases hw <;> simp only [render, h.markup]
    rw [renderAll, renderAll, hone]
  · intro refs
    have hone : (wrap is).plainText refs = (wrap js).plainText refs := by
      cases hw <;> simp only [plainText, h.text]
    rw [plainTexts, plainTexts, hone]

theorem texts (s t : String) (after : List Inline) :
    SameMarkup (.text s :: .text t :: after) (.text (s ++ t) :: after) := by
  constructor
  · intro refs note
    simp only [renderAll, render, pure_bind, bind_assoc, Option.getD_some,
      Markup.escapeText_append, String.append_assoc]
  · intro refs
    simp only [plainTexts, plainText, String.append_assoc]

theorem empty (after : List Inline) : SameMarkup (.text "" :: after) after := by
  constructor
  · intro refs note
    simp only [renderAll, render, pure_bind, Option.getD_some, Markup.escapeText_empty,
      String.empty_append, bind_pure]
  · intro refs
    simp only [plainTexts, plainText, String.empty_append]

theorem renderParagraph (h : SameMarkup is js) (refs : References) (note : NoteExpander Logged) :
    Inline.renderParagraph refs note is = Inline.renderParagraph refs note js := by
  simp only [Inline.renderParagraph, h.text, h.markup]

theorem renderEach {cells cells' : List (List Inline)} (h : List.Forall₂ SameMarkup cells cells')
    (refs : References) (note : NoteExpander Logged) :
    Inline.renderEach refs note cells = Inline.renderEach refs note cells' := by
  induction h with
  | nil => rfl
  | cons hcell _ ih => rw [Inline.renderEach, Inline.renderEach, hcell.markup, ih]

theorem renderTable {rows rows' : List (List (List Inline))}
    (h : List.Forall₂ (List.Forall₂ SameMarkup) rows rows') (refs : References)
    (note : NoteExpander Logged) (align : List (Option Align)) (level : Nat) :
    Typeset.renderTable refs note align rows level =
      Typeset.renderTable refs note align rows' level := by
  cases h with
  | nil => rfl
  | cons hheader hbody =>
    rw [Typeset.renderTable, Typeset.renderTable, renderEach hheader,
      renderEach (List.rel_flatten hbody), hheader.length_eq]

end SameMarkup

/-- **A cut does not show in the markup of a run, nor in its plain text.** -/
theorem Joined.sameMarkup {is js : List Inline} (h : Joined is js) : SameMarkup is js := by
  induction h with
  | texts before after s t => exact (SameMarkup.texts s t after).behind before
  | empty before after => exact (SameMarkup.empty after).behind before
  | inside before after hw _ ih => exact (ih.inside hw after).behind before

end Inline

/-! ## Blocks -/

theorem forall₂_at {α : Type} {R : α → α → Prop} (hrefl : ∀ a, R a a) {a b : α} (h : R a b)
    (before after : List α) : List.Forall₂ R (before ++ a :: after) (before ++ b :: after) :=
  have hsame (as : List α) : List.Forall₂ R as as := List.forall₂_same.2 fun a _ => hrefl a
  List.rel_append (hsame before) (.cons h (hsame after))

namespace Block

def isList : Block → Bool
  | .list _ _ => true
  | _ => false

/-- The run of a paragraph. -/
def paragraph? : Block → Option (List Inline)
  | .paragraph children => some children
  | _ => none

theorem eq_of_paragraph? {b : Block} {children : List Inline}
    (h : b.paragraph? = some children) : b = .paragraph children := by
  cases b <;> cases h
  rfl

/-- A block under a marker: its lines as they stand where it is a list, else if there are any. -/
theorem renderTail_eq (refs : References) (note : NoteExpander Logged) (level : Nat) (b : Block)
    (rest : List Block) : renderTail refs note level (b :: rest) = (do
      let first ← b.render refs note level
      let others ← renderTail refs note level rest
      return first.toList.filter (fun lines => b.isList || !lines.isEmpty) ++ others) := by
  by_cases hl : ∃ ordered items, b = .list ordered items
  · obtain ⟨ordered, items, rfl⟩ := hl
    simp only [renderTail, render, isList, bind_assoc, pure_bind, Option.toList_some,
      Bool.true_or, List.filter_true, List.cons_append, List.nil_append]
  · have hl' : ∀ ordered items, b ≠ .list ordered items :=
      fun ordered items he => hl ⟨ordered, items, he⟩
    have hb : b.isList = false := by
      cases b with
      | list ordered items => exact absurd rfl (hl' ordered items)
      | _ => rfl
    simp only [renderTail_cons _ _ _ _ hl', hb, Bool.false_or]

/-- Blocks that come to the same markup, under the marker of a list item too. -/
structure Alike (b c : Block) : Prop where
  markup : b.RendersAs c
  list : b.isList = c.isList
  paragraph : Option.Rel Inline.SameMarkup b.paragraph? c.paragraph?

namespace Alike

theorem refl (b : Block) : Alike b b where
  markup _ _ _ := rfl
  list := rfl
  paragraph := by
    cases b.paragraph? with
    | none => exact .none
    | some is => exact .some (.refl is)

theorem of_markup {b c : Block} (h : b.RendersAs c) (hb : b.isList = false := by rfl)
    (hc : c.isList = false := by rfl) (hpb : b.paragraph? = none := by rfl)
    (hpc : c.paragraph? = none := by rfl) : Alike b c where
  markup := h
  list := hb.trans hc.symm
  paragraph := by
    rw [hpb, hpc]
    exact .none

variable {refs : References} {note : NoteExpander Logged}

theorem sameMarkup {bs cs : List Block} (h : List.Forall₂ Alike bs cs) : SameMarkup bs cs :=
  .of_forall₂ (h.imp fun _ _ hb => hb.markup)

theorem renderTail {bs cs : List Block} (h : List.Forall₂ Alike bs cs) (level : Nat) :
    Block.renderTail refs note level bs = Block.renderTail refs note level cs := by
  induction h with
  | nil => rfl
  | cons hb _ ih => rw [renderTail_eq, renderTail_eq, hb.markup, hb.list, ih]

theorem renderItems {items items' : List (List Block)}
    (h : List.Forall₂ (List.Forall₂ Alike) items items') (marker : String) (level : Nat) :
    Block.renderItems refs note marker level items =
      Block.renderItems refs note marker level items' := by
  induction h with
  | nil => rfl
  | cons hitem _ ih =>
    cases hitem with
    | nil => rw [Block.renderItems, Block.renderItems, ih] <;> exact fun _ _ h => nomatch h
    | @cons b c rest rest' hb hrest =>
      -- Only an item that opens with a paragraph has text behind its marker.
      match hpb : b.paragraph?, hpc : c.paragraph?, hb.paragraph with
      | some is, some js, .some hrun =>
        rw [eq_of_paragraph? hpb, eq_of_paragraph? hpc, Block.renderItems, Block.renderItems,
          hrun.renderParagraph, renderTail hrest, ih]
      | none, none, .none =>
        have hopens {b : Block} (hp : b.paragraph? = none) (bs : List Block) :
            ∀ children rest, b :: bs ≠ .paragraph children :: rest := by
          intro children rest he
          cases he
          cases hp
        rw [renderItems_cons _ _ _ _ _ (hopens hpb rest), renderItems_cons _ _ _ _ _ (hopens hpc rest'),
          renderTail (.cons hb hrest), ih]

end Alike

/-- **A cut does not show in the markup of a block.** -/
theorem Joined.alike {b c : Block} (h : Joined b c) : Alike b c := by
  induction h with
  | heading depth h =>
    refine .of_markup fun refs note level => ?_
    simp only [render, h.sameMarkup.markup]
  | paragraph h =>
    refine ⟨fun refs note level => ?_, rfl, .some h.sameMarkup⟩
    simp only [render, h.sameMarkup.renderParagraph]
  | cell align above below left right h =>
    refine .of_markup fun refs note level => ?_
    have hrow := forall₂_at .refl h.sameMarkup left right
    have hrows := forall₂_at (fun row => List.forall₂_same.2 fun cell _ => .refl cell) hrow above below
    simp only [render, Inline.SameMarkup.renderTable hrows]
  | item ordered above below before after _ ih =>
    refine ⟨fun refs note level => ?_, rfl, .none⟩
    have hitem := forall₂_at .refl ih before after
    have hitems := forall₂_at (fun item => List.forall₂_same.2 fun b _ => .refl b) hitem above below
    simp only [render, Alike.renderItems hitems]
  | blockquote before after _ ih =>
    refine .of_markup fun refs note level => ?_
    have hblocks := Alike.sameMarkup (forall₂_at .refl ih before after)
    simp only [render, hblocks refs note 0]
  | footnoteDefinition identifier before after _ _ =>
    refine .of_markup fun refs note level => ?_
    simp only [render]

/-- **A cut does not show in what a block says of its document.** -/
theorem Joined.standsIn {b c : Block} (h : Joined b c) : StandsIn b c where
  markup := h.alike.markup
  preamble := by cases h <;> rfl
  frontmatter := by cases h <;> rfl
  title refs := by
    cases h with
    | heading depth h => simp only [titleText?, h.sameMarkup.text]
    | _ => rfl
  link := by cases h <;> rfl
  note := by
    cases h with
    | footnoteDefinition identifier before after h =>
      exact .some ⟨rfl, Alike.sameMarkup (forall₂_at .refl h.alike before after)⟩
    | _ => exact .none

end Block

/-! ## Documents -/

namespace Document

theorem Joined.renderWith_eq {d e : Document} (h : Joined d e) (o : Options)
    (r : TemplateRegistry) : d.renderWith o r = e.renderWith o r := by
  obtain ⟨before, after, hb⟩ := h
  exact renderWith_of_standIn (forall₂_at .refl hb.standsIn before after) o r

/-- **How text is cut into leaves does not show.** Documents that come from one another by joining
leaves side by side, cutting a leaf in two at any point, and adding or dropping leaves without
text, in any runs and any number of times, render to the same file with the same title, authors,
language and warnings. -/
theorem renderWith_of_recut {d e : Document} (h : Relation.EqvGen Joined d e) (o : Options)
    (r : TemplateRegistry) : d.renderWith o r = e.renderWith o r := by
  induction h with
  | rel d e h => exact h.renderWith_eq o r
  | refl d => rfl
  | symm d e _ ih => exact ih.symm
  | trans d e f _ _ ih₁ ih₂ => exact ih₁.trans ih₂

/-- A title in two leaves, and a mark behind a leaf without text. -/
def torn : Document :=
  ⟨[.heading 1 [.text "Ti", .text "tle"],
    .paragraph [.strong [.text "", .text "*"], .footnoteReference "n"],
    .footnoteDefinition "n" [.paragraph [.text "a", .text "b"]]]⟩

/-- The same with every text in one leaf. -/
def mended : Document :=
  ⟨[.heading 1 [.text "Title"],
    .paragraph [.strong [.text "*"], .footnoteReference "n"],
    .footnoteDefinition "n" [.paragraph [.text "ab"]]]⟩

theorem renderWith_torn : Relation.EqvGen Joined torn mended ∧
    torn.renderWith {} .builtin = mended.renderWith {} .builtin := by
  have heading := Block.Joined.heading 1 (.texts [] [] "Ti" "tle")
  have paragraph := Block.Joined.paragraph
    (.inside [] [.footnoteReference "n"] .strong (.empty [] [.text "*"]))
  have body := Block.Joined.paragraph (.texts [] [] "a" "b")
  have note := Block.Joined.footnoteDefinition "n" [] [] body
  have h : Relation.EqvGen Joined torn mended :=
    .trans _ _ _ (.rel _ _ (.block [] _ heading)) <|
      .trans _ _ _ (.rel _ _ (.block [_] _ paragraph)) (.rel _ _ (.block [_, _] [] note))
  exact ⟨h, renderWith_of_recut h {} .builtin⟩

end Document

end Typeset
