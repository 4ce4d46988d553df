/-
The definition that a reference resolves to.

Definitions are gathered from the root blocks in order, and a newer one hides
the older ones under its key. So a reference finds the last definition of its
kind whose identifier is its own up to case. Whatever stands inside a root
block, and whatever is of the other kind, is never looked at.
-/
import Mathlib.Data.List.Basic
import Mathlib.Data.List.Induction
import Typeset.Render.Context

namespace Typeset

variable {α : Type}

/-! ## The last definition -/

/-- A root block defines the identifier, up to case, and no later one does so again. The kind of
definitions is given by the block that defines an identifier as something. -/
def LastDefined (define : String → α → Block) (blocks : List Block) (identifier : String) (a : α) :
    Prop :=
  ∃ before i after, blocks = before ++ define i a :: after ∧
    Text.lowercase i = Text.lowercase identifier ∧
    ∀ j b, define j b ∈ after → Text.lowercase j ≠ Text.lowercase identifier

/-- A look-up among root blocks that finds the last definition of a kind. -/
structure FindsLast (define : String → α → Block) (find? : List Block → String → Option α) :
    Prop where
  found_iff : ∀ blocks identifier a,
    find? blocks identifier = some a ↔ LastDefined define blocks identifier a
  missing_iff : ∀ blocks identifier, find? blocks identifier = none ↔
    ∀ i a, define i a ∈ blocks → Text.lowercase i ≠ Text.lowercase identifier
  /-- A block that is no such definition does not count, whatever stands inside it. -/
  skips : ∀ before b after, (∀ i a, b ≠ define i a) →
    find? (before ++ b :: after) = find? (before ++ after)
  /-- One more definition is found under its own key, and changes nothing under another. -/
  append : ∀ blocks i a identifier, find? (blocks ++ [define i a]) identifier =
    if Text.lowercase i = Text.lowercase identifier then some a else find? blocks identifier

/-- Behind the blocks, one more either defines the identifier itself or leaves it as it is. -/
theorem lastDefined_concat {define : String → α → Block} {blocks : List Block} {b : Block}
    {identifier : String} {a : α} : LastDefined define (blocks ++ [b]) identifier a ↔
      (∃ i, b = define i a ∧ Text.lowercase i = Text.lowercase identifier) ∨
      (∀ j c, b = define j c → Text.lowercase j ≠ Text.lowercase identifier) ∧
        LastDefined define blocks identifier a := by
  constructor
  · rintro ⟨before, i, after, hblocks, hi, hafter⟩
    rcases List.eq_nil_or_concat' after with rfl | ⟨after, b', rfl⟩
    · obtain ⟨-, hb⟩ := List.append_inj' hblocks rfl
      exact .inl ⟨i, List.singleton_inj.1 hb, hi⟩
    · rw [← List.cons_append, ← List.append_assoc] at hblocks
      obtain ⟨hfront, hb⟩ := List.append_inj' hblocks rfl
      obtain rfl := List.singleton_inj.1 hb
      refine .inr ⟨fun j c hj => hafter j c (by simp [hj]), before, i, after, hfront, hi, ?_⟩
      exact fun j c hj => hafter j c (List.mem_append_left _ hj)
  · rintro (⟨i, rfl, hi⟩ | ⟨hb, before, i, after, rfl, hi, hafter⟩)
    · exact ⟨blocks, i, [], rfl, hi, by simp⟩
    · refine ⟨before, i, after ++ [b], by simp, hi, fun j c hj => ?_⟩
      rcases List.mem_append.1 hj with hj | hj
      · exact hafter j c hj
      · exact hb j c (List.mem_singleton.1 hj).symm

namespace References

/-- The entries of a table are those of the definitions of a kind. -/
def Enters (define : String → α → Block) (keyed? : Block → Option (String × α)) : Prop :=
  ∀ b key a, keyed? b = some (key, a) ↔ ∃ i, b = define i a ∧ Text.lowercase i = key

theorem enters_linkEntry? : Enters .linkDefinition linkEntry? := by
  intro b key url
  cases b <;> simp [and_comm, linkEntry?]

theorem enters_noteEntry? : Enters .footnoteDefinition noteEntry? := by
  intro b key body
  cases b <;> simp [and_comm, noteEntry?]

section

variable {define : String → α → Block} {keyed? : Block → Option (String × α)}

theorem lookup_entries_concat (blocks : List Block) (b : Block) (key : String) :
    ((blocks ++ [b]).filterMap keyed?).reverse.lookup key =
      ((keyed? b).toList.lookup key).or ((blocks.filterMap keyed?).reverse.lookup key) := by
  have hentry : ([b].filterMap keyed?).reverse = (keyed? b).toList := by
    cases hb : keyed? b <;> simp [hb]
  rw [List.filterMap_append, List.reverse_append, List.lookup_append, hentry]

theorem Enters.lookup_eq_some_iff (h : Enters define keyed?) {b : Block} {key : String} {a : α} :
    (keyed? b).toList.lookup key = some a ↔ ∃ i, b = define i a ∧ Text.lowercase i = key := by
  rw [← h]
  cases keyed? b with
  | none => simp
  | some e =>
    obtain ⟨key', a'⟩ := e
    by_cases hk : key = key'
    · simp [hk]
    · simp [List.lookup_cons, beq_false_of_ne hk, Ne.symm hk]

theorem Enters.lookup_eq_none_iff (h : Enters define keyed?) {b : Block} {key : String} :
    (keyed? b).toList.lookup key = none ↔ ∀ i a, b = define i a → Text.lowercase i ≠ key := by
  rw [Option.eq_none_iff_forall_ne_some]
  constructor
  · exact fun hb i a hi hk => hb a (h.lookup_eq_some_iff.2 ⟨i, hi, hk⟩)
  · intro hb a ha
    obtain ⟨i, hi, hk⟩ := h.lookup_eq_some_iff.1 ha
    exact hb i a hi hk

theorem Enters.lookup_eq_some_iff_lastDefined (h : Enters define keyed?) {blocks : List Block}
    {identifier : String} {a : α} :
    (blocks.filterMap keyed?).reverse.lookup (Text.lowercase identifier) = some a ↔
      LastDefined define blocks identifier a := by
  induction blocks using List.reverseRecOn with
  | nil => simp [LastDefined]
  | append_singleton blocks b ih =>
    rw [lookup_entries_concat, Option.or_eq_some_iff, h.lookup_eq_some_iff, h.lookup_eq_none_iff,
      ih, lastDefined_concat]

/-- **A table finds the last definition of its kind.** -/
theorem Enters.findsLast (h : Enters define keyed?) {find? : List Block → String → Option α}
    (hfind : ∀ blocks identifier, find? blocks identifier =
      (blocks.filterMap keyed?).reverse.lookup (Text.lowercase identifier)) :
    FindsLast define find? where
  found_iff blocks identifier a := by rw [hfind, h.lookup_eq_some_iff_lastDefined]
  missing_iff blocks identifier := by
    rw [hfind, lookup_entries_eq_none]
    constructor
    · exact fun hall i a hm => hall _ hm (Text.lowercase i, a) ((h _ _ _).2 ⟨i, rfl, rfl⟩)
    · intro hall b hb e he
      obtain ⟨i, rfl, hk⟩ := (h b e.1 e.2).1 he
      exact hk ▸ hall i e.2 hb
  skips before b after hb := by
    have hnone : keyed? b = none := by
      rw [Option.eq_none_iff_forall_ne_some]
      intro e he
      obtain ⟨i, hi, -⟩ := (h b e.1 e.2).1 he
      exact hb i e.2 hi
    funext identifier
    simp [hfind, List.filterMap_append, hnone]
  append blocks i a identifier := by
    have hentry : keyed? (define i a) = some (Text.lowercase i, a) := (h _ _ _).2 ⟨i, rfl, rfl⟩
    rw [hfind, hfind, lookup_entries_concat, hentry]
    by_cases hk : Text.lowercase i = Text.lowercase identifier
    · simp [hk]
    · simp [List.lookup_cons, hk, beq_false_of_ne (Ne.symm hk)]

end

theorem findsLast_url? : FindsLast .linkDefinition fun blocks => (ofBlocks blocks).url? :=
  enters_linkEntry?.findsLast fun blocks identifier => by rw [url?, links_ofBlocks]

theorem findsLast_note? : FindsLast .footnoteDefinition fun blocks => (ofBlocks blocks).note? :=
  enters_noteEntry?.findsLast fun blocks identifier => by rw [note?, notes_ofBlocks]

end References

/-! ## References with a definition -/

/-- A reference with a definition is a link around its text, and nothing else is done for it. -/
theorem Inline.render_reference_of_some {refs : References} {note : NoteExpander Logged}
    {identifier url : String} (h : refs.url? identifier = some url) (label : Option String)
    (children : List Inline) : (linkReference identifier label children).render refs note = (do
      return some (Markup.link url (← renderAll refs note children))) := by
  rw [render, h]

namespace Context

/-- **A reference resolves to the last definition.** Among the root blocks of a document, a link
identifier has the URL of the last link definition of that identifier, up to case, and a note
identifier the body of the last such note; so a link reference with a definition is a link to that
URL around its text, or around the URL itself where the text is blank, and leaves the warnings of
its text only. -/
theorem references_take_last :
    FindsLast .linkDefinition (fun blocks => (References.ofBlocks blocks).url?) ∧
    FindsLast .footnoteDefinition (fun blocks => (References.ofBlocks blocks).note?) ∧
    ∀ (blocks : List Block) (opened : List String) (warnings : List Warning)
      (identifier url : String) (label : Option String) (children : List Inline),
      LastDefined .linkDefinition blocks identifier url →
      let c : Context := ⟨.ofBlocks blocks, opened, warnings⟩
      let text := (c.renderInlines children).1
      c.renderInline (.linkReference identifier label children) =
        (some ("#link(\"" ++ Markup.escapeString url ++ "\")[" ++
            (if Text.isBlankText text then Markup.escapeText url else text) ++ "]"),
          (c.renderInlines children).2) := by
  refine ⟨References.findsLast_url?, References.findsLast_note?, ?_⟩
  intro blocks opened warnings identifier url label children hlast c text
  have hurl : c.references.url? identifier = some url :=
    (References.findsLast_url?.found_iff blocks identifier url).2 hlast
  have hlink : Markup.link url text = "#link(\"" ++ Markup.escapeString url ++ "\")[" ++
      (if Text.isBlankText text then Markup.escapeText url else text) ++ "]" := by
    have hopen : "#link(" ++ "\"" = "#link(\"" := rfl
    have hclose : "\"" ++ ")[" = "\")[" := rfl
    simp only [Markup.link, Markup.quote, ← hopen, ← hclose, String.append_assoc]
  have hnode : c.renderInline (.linkReference identifier label children) =
      (some (Markup.link url text), (c.renderInlines children).2) := by
    rw [renderInline, Inline.render_reference_of_some hurl]
    simp only [renderInlines, record, text, Logged.value_bind, Logged.warnings_bind,
      Logged.value_pure, Logged.warnings_pure, List.append_nil]
  rw [hnode, hlink]

/-- Definitions of one identifier at the root, in a quote and of a note, and another one between. -/
def competingDefinitions : List Block :=
  [.linkDefinition "Docs" "old", .linkDefinition "other" "o", .linkDefinition "DOCS" "a\"b",
   .blockquote [.linkDefinition "docs" "quoted"], .footnoteDefinition "docs" []]

theorem references_take_last_competing :
    let c : Context := ⟨.ofBlocks competingDefinitions, [], [.unknownStyle "s"]⟩
    let node : Inline := .linkReference "docs" none [.linkReference "none" none [.text " "]]
    LastDefined .linkDefinition competingDefinitions "docs" "a\"b" ∧
      (c.renderInline node).1 = some "#link(\"a\\\"b\")[a\"b]" ∧
      (c.renderInline node).2.warnings = [.unknownStyle "s", .unresolvedLink "none"] := by
  intro c node
  have hlast : LastDefined .linkDefinition competingDefinitions "docs" "a\"b" := by
    refine ⟨competingDefinitions.take 2, "DOCS", competingDefinitions.drop 3, rfl,
      by decide +kernel, fun j url hj => ?_⟩
    simp [competingDefinitions] at hj
  have hnode := references_take_last.2.2 competingDefinitions [] [.unknownStyle "s"] "docs" "a\"b"
    none [.linkReference "none" none [.text " "]] hlast
  refine ⟨hlast, ?_, ?_⟩
  · rw [hnode]
    decide +kernel
  · rw [hnode]
    decide +kernel

end Context

end Typeset
