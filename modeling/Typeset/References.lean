/-
The definitions that references look up.

Only definitions among the root blocks count. Identifiers are compared in
lower case, links and notes apart from each other, and the last definition of
an identifier holds.
-/
import Typeset.Document
import Typeset.Text.Case

namespace Typeset

/-- Definitions under their identifiers in lower case, the newest first. -/
structure References where
  links : List (String × String) := []
  notes : List (String × List Block) := []

namespace References

/-- The definitions after one more block. -/
def add (r : References) : Block → References
  | .linkDefinition identifier url =>
    { r with links := (Text.lowercase identifier, url) :: r.links }
  | .footnoteDefinition identifier children =>
    { r with notes := (Text.lowercase identifier, children) :: r.notes }
  | _ => r

/-- The definitions among the root blocks. -/
def ofBlocks (blocks : List Block) : References := blocks.foldl add {}

/-- The URL of a link identifier. -/
def url? (r : References) (identifier : String) : Option String :=
  r.links.lookup (Text.lowercase identifier)

/-- The body of a note identifier. -/
def note? (r : References) (identifier : String) : Option (List Block) :=
  r.notes.lookup (Text.lowercase identifier)

/-- The identifiers of the notes, in lower case. -/
def noteKeys (r : References) : List String := r.notes.map (·.1)

theorem mem_noteKeys_of_note? {r : References} {identifier : String} {body : List Block}
    (h : r.note? identifier = some body) : Text.lowercase identifier ∈ r.noteKeys := by
  obtain ⟨l₁, l₂, hl, -⟩ := List.lookup_eq_some_iff.1 h
  simp [noteKeys, hl]

/-- The definition of a link, under its identifier in lower case. -/
def linkEntry? : Block → Option (String × String)
  | .linkDefinition identifier url => some (Text.lowercase identifier, url)
  | _ => none

/-- The definition of a note, under its identifier in lower case. -/
def noteEntry? : Block → Option (String × List Block)
  | .footnoteDefinition identifier children => some (Text.lowercase identifier, children)
  | _ => none

theorem links_foldl_add (r : References) (blocks : List Block) :
    (blocks.foldl add r).links = (blocks.filterMap linkEntry?).reverse ++ r.links := by
  induction blocks generalizing r with
  | nil => rfl
  | cons b blocks ih =>
    rw [List.foldl_cons, ih]
    cases b <;> simp [add, linkEntry?, List.filterMap_cons]

theorem notes_foldl_add (r : References) (blocks : List Block) :
    (blocks.foldl add r).notes = (blocks.filterMap noteEntry?).reverse ++ r.notes := by
  induction blocks generalizing r with
  | nil => rfl
  | cons b blocks ih =>
    rw [List.foldl_cons, ih]
    cases b <;> simp [add, noteEntry?, List.filterMap_cons]

@[simp] theorem links_ofBlocks (blocks : List Block) :
    (ofBlocks blocks).links = (blocks.filterMap linkEntry?).reverse := by
  simp [ofBlocks, links_foldl_add]

@[simp] theorem notes_ofBlocks (blocks : List Block) :
    (ofBlocks blocks).notes = (blocks.filterMap noteEntry?).reverse := by
  simp [ofBlocks, notes_foldl_add]

/-- A key is looked up in vain among entries exactly where no block gives it one. -/
theorem lookup_entries_eq_none {α : Type} {stands : Block → Option (String × α)}
    {blocks : List Block} {key : String} :
    (blocks.filterMap stands).reverse.lookup key = none ↔
      ∀ b ∈ blocks, ∀ e, stands b = some e → e.1 ≠ key := by
  rw [List.lookup_eq_none_iff]
  constructor
  · intro h b hb e he hk
    have hne := h e (List.mem_reverse.2 (List.mem_filterMap.2 ⟨b, hb, he⟩))
    simp [hk] at hne
  · intro h e hm
    obtain ⟨b, hb, he⟩ := List.mem_filterMap.1 (List.mem_reverse.1 hm)
    simpa using fun hk => h b hb e he hk.symm

/-- A link is looked up in vain exactly where no root block defines it. -/
theorem url?_ofBlocks_eq_none {blocks : List Block} {identifier : String} :
    (ofBlocks blocks).url? identifier = none ↔
      ∀ i url, .linkDefinition i url ∈ blocks → Text.lowercase i ≠ Text.lowercase identifier := by
  rw [url?, links_ofBlocks, lookup_entries_eq_none]
  constructor
  · exact fun h i url hm => h _ hm _ rfl
  · intro h b hb e he
    cases b <;> cases he
    exact h _ _ hb

theorem note?_ofBlocks_eq_none {blocks : List Block} {identifier : String} :
    (ofBlocks blocks).note? identifier = none ↔ ∀ i children,
      .footnoteDefinition i children ∈ blocks → Text.lowercase i ≠ Text.lowercase identifier := by
  rw [note?, notes_ofBlocks, lookup_entries_eq_none]
  constructor
  · exact fun h i children hm => h _ hm _ rfl
  · intro h b hb e he
    cases b <;> cases he
    exact h _ _ hb

end References

end Typeset
