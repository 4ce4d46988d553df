/-
Lists as the texts of their items.

Rendering goes through a list item by item, and through an item block by block.
What comes out is a list of texts, one for each item, and what stands below the
marker of an item are the texts of its blocks that are kept, one after another.
-/
import Typeset.Proofs.Render.Recut

namespace Typeset.Block

/-- The blocks of an item that stand below its marker. -/
def belowMarker : List Block → List Block
  | .paragraph _ :: rest => rest
  | item => item

theorem newline_not_mem_marker (ordered : Bool) : '\n' ∉ (Markup.marker ordered).toList := by
  cases ordered <;> decide

variable (refs : References) (note : NoteExpander Logged) (level : Nat)

/-- The text behind the marker of an item. -/
def openingText : List Block → Option String
  | .paragraph children :: _ => some (Inline.renderParagraph refs note children).value
  | _ => none

/-- What a block leaves below a marker. -/
def under (b : Block) : List String :=
  (b.render refs note level).value.toList.filter fun s => b.isList || !s.isEmpty

/-- The markup of a list item. -/
def itemText (marker : String) (item : List Block) : String :=
  Markup.item marker level (openingText refs note item)
    ((belowMarker item).flatMap (under refs note (level + 1)))

theorem value_renderTail (bs : List Block) :
    (renderTail refs note level bs).value = bs.flatMap (under refs note level) := by
  induction bs with
  | nil => simp [renderTail]
  | cons b bs ih =>
    rw [renderTail_eq, Logged.value_bind, Logged.value_bind, Logged.value_pure, ih]
    rfl

theorem value_renderItems (marker : String) (items : List (List Block)) :
    (renderItems refs note marker level items).value =
      items.map (itemText refs note level marker) := by
  induction items with
  | nil => simp [renderItems]
  | cons item items ih =>
    by_cases hp : ∃ children rest, item = .paragraph children :: rest
    · obtain ⟨children, rest, rfl⟩ := hp
      simp [renderItems, ih, value_renderTail, itemText, openingText, belowMarker]
    · have hp' : ∀ children rest, item ≠ .paragraph children :: rest :=
        fun children rest he => hp ⟨children, rest, he⟩
      have hopening : openingText refs note item = none := by
        rw [openingText]
        exact hp'
      have hbelow : belowMarker item = item := by
        rw [belowMarker]
        exact hp'
      rw [renderItems_cons _ _ _ _ _ hp']
      simp [ih, value_renderTail, itemText, hopening, hbelow]

/-- **A list is the texts of its items,** one below the other. -/
theorem value_render_list (ordered : Bool) (items : List (List Block)) :
    ((list ordered items).render refs note level).value =
      some (Text.joinWith "\n" (items.map (itemText refs note level (Markup.marker ordered)))) := by
  rw [render, Logged.value_bind, Logged.value_pure, value_renderItems]

end Typeset.Block
