/-
The title of a document, and the heading that repeats it.

A heading opens a document if it is of the first level, has a text, and only
metadata and link definitions stand before it. It is left out of the body where
it says the final title once more, and every other root block stays. Metadata
that is handed in again as it came out gives the same file.
-/
import Typeset.Proofs.Text.Trimming
import Typeset.Render

namespace Typeset

/-! ## The heading that opens a document -/

namespace Block

variable {refs : References} {b : Block} {text : String}

theorem titleText?_heading (depth : UInt8) (children : List Inline) :
    (heading depth children).titleText? refs =
      if depth = 1 ∧ Text.trimBlanks (Inline.plainTexts refs children) ≠ "" then
        some (Text.trimBlanks (Inline.plainTexts refs children))
      else none := by
  by_cases hdepth : depth = 1
  · by_cases hblank : Text.trimBlanks (Inline.plainTexts refs children) = ""
    · simp [titleText?, hblank]
    · simp [titleText?, hdepth, hblank]
  · simp [titleText?, hdepth]

theorem titleText?_eq_some_iff : b.titleText? refs = some text ↔
    ∃ children, b = .heading 1 children ∧
      Text.trimBlanks (Inline.plainTexts refs children) = text ∧ text ≠ "" := by
  constructor
  · intro h
    cases b with
    | heading depth children =>
      rw [titleText?_heading] at h
      split at h
      · rename_i hc
        obtain rfl := Option.some.inj h
        exact ⟨children, by rw [hc.1], rfl, hc.2⟩
      · cases h
    | _ => cases h
  · rintro ⟨children, rfl, rfl, hne⟩
    rw [titleText?_heading, if_pos ⟨rfl, hne⟩]

/-- Metadata, and definitions of links. -/
inductive Prefatory : Block → Prop
  | frontmatter (raw : String) : Prefatory (.frontmatter raw)
  | linkDefinition (identifier url : String) : Prefatory (.linkDefinition identifier url)

theorem isPreamble_iff : b.isPreamble ↔ b.Prefatory := by
  constructor
  · intro h
    cases b with
    | frontmatter raw => exact .frontmatter raw
    | linkDefinition identifier url => exact .linkDefinition identifier url
    | _ => cases h
  · rintro (_ | _) <;> rfl

end Block

namespace Document

variable {d : Document} {o : Options} {refs : References} {i : Nat} {text : String}

/-- A root block opens a document with a text: it is a heading of the first level of that text, and
no blocks but metadata and link definitions stand before it. -/
structure Opens (d : Document) (refs : References) (i : Nat) (text : String) : Prop where
  before : ∀ b ∈ d.children.take i, b.Prefatory
  heading : ∃ children, d.children[i]? = some (.heading 1 children) ∧
    Text.trimBlanks (Inline.plainTexts refs children) = text
  text_ne : text ≠ ""

/-- **The heading that is found is the one that opens the document.** -/
theorem leadingTitle?_eq_some_iff : d.leadingTitle? refs = some ⟨text, i⟩ ↔ d.Opens refs i text := by
  constructor
  · intro h
    have hsplit := List.takeWhile_append_dropWhile (p := Block.isPreamble) (l := d.children)
    have hbefore : ∀ b ∈ d.children.takeWhile Block.isPreamble, b.Prefatory :=
      fun _ hb => Block.isPreamble_iff.1 (List.mem_takeWhile_imp hb)
    unfold leadingTitle? at h
    generalize d.children.takeWhile Block.isPreamble = before at hsplit hbefore h
    generalize d.children.dropWhile Block.isPreamble = rest at hsplit h
    cases rest with
    | nil => cases h
    | cons b rest =>
      obtain ⟨_, htext, hl⟩ := Option.map_eq_some_iff.1 h
      obtain ⟨rfl, rfl⟩ := LeadingTitle.mk.inj hl
      obtain ⟨children, rfl, htrim, hne⟩ := Block.titleText?_eq_some_iff.1 htext
      refine ⟨?_, ⟨children, ?_, htrim⟩, hne⟩
      · rwa [← hsplit, List.take_left]
      · rw [← hsplit, List.getElem?_append_right (Nat.le_refl _), Nat.sub_self]
        rfl
  · rintro ⟨hbefore, ⟨children, hi, htext⟩, hne⟩
    obtain ⟨hlt, hget⟩ := List.getElem?_eq_some_iff.1 hi
    have hchildren : d.children = d.children.take i ++ .heading 1 children :: d.children.drop (i + 1) := by
      rw [← hget, List.getElem_cons_drop, List.take_append_drop]
    have htitle : (Block.heading 1 children).titleText? refs = some text :=
      Block.titleText?_eq_some_iff.2 ⟨children, rfl, htext, hne⟩
    have hpreamble : ∀ b ∈ d.children.take i, b.isPreamble :=
      fun b hb => Block.isPreamble_iff.2 (hbefore b hb)
    unfold leadingTitle?
    rw [hchildren, List.dropWhile_append_of_pos hpreamble, List.takeWhile_append_of_pos hpreamble]
    simp [Block.isPreamble, htitle, Nat.le_of_lt hlt]

theorem Opens.trimBlanks_text (h : d.Opens refs i text) : Text.trimBlanks text = text := by
  obtain ⟨children, -, rfl⟩ := h.heading
  exact Text.trimBlanks_trimBlanks _

/-! ## The final title -/

/-- The title in the first metadata block among the root blocks. -/
def WritesTitle (d : Document) (title : String) : Prop :=
  ∃ before raw after, d.children = before ++ .frontmatter raw :: after ∧
    (∀ other, .frontmatter other ∉ before) ∧ (Frontmatter.read raw).title = some title

theorem frontmatter_title_eq_some_iff : d.frontmatter.title = some text ↔ d.WritesTitle text := by
  unfold frontmatter
  constructor
  · intro h
    cases hfirst : d.children.findSome? Block.frontmatter? with
    | none =>
      rw [hfirst] at h
      cases h
    | some f =>
      rw [hfirst, Option.getD_some] at h
      obtain ⟨before, b, after, hsplit, hb, hnone⟩ := List.findSome?_eq_some_iff.1 hfirst
      cases b with
      | frontmatter raw =>
        obtain rfl := Option.some.inj hb
        refine ⟨before, raw, after, hsplit, fun other hother => ?_, h⟩
        cases hnone _ hother
      | _ => cases hb
  · rintro ⟨before, raw, after, hsplit, hbefore, htitle⟩
    have hnone : ∀ b ∈ before, b.frontmatter? = none := fun b hb => by
      cases b with
      | frontmatter other => exact absurd hb (hbefore other)
      | _ => rfl
    have hfirst : d.children.findSome? Block.frontmatter? = some (.read raw) :=
      List.findSome?_eq_some_iff.2 ⟨before, _, after, hsplit, rfl, hnone⟩
    rw [hfirst]
    exact htitle

/-- The title of a document: what the caller gives, else what its first metadata block gives, else
the text of the heading that opens it. -/
structure Entitled (d : Document) (o : Options) (refs : References) (title : String) : Prop where
  given : ∀ t, o.title = some t → title = t
  written : o.title = none → ∀ t, d.WritesTitle t → title = t
  opened : o.title = none → (∀ t, ¬ d.WritesTitle t) → ∀ i text, d.Opens refs i text → title = text
  untitled : o.title = none → (∀ t, ¬ d.WritesTitle t) →
    (∀ i text, ¬ d.Opens refs i text) → title = ""

theorem entitled_resolve : d.Entitled o refs (Metadata.resolve d o refs).title := by
  have hunwritten (h : ∀ t, ¬ d.WritesTitle t) : d.frontmatter.title = none :=
    Option.eq_none_iff_forall_ne_some.2 fun t ht => h t (frontmatter_title_eq_some_iff.1 ht)
  constructor
  · intro t ht
    simp [Metadata.resolve, ht]
  · intro ho t ht
    simp [Metadata.resolve, ho, frontmatter_title_eq_some_iff.2 ht]
  · intro ho hf i text hopens
    simp [Metadata.resolve, ho, hunwritten hf, leadingTitle?_eq_some_iff.2 hopens]
  · intro ho hf hnone
    have hleading : d.leadingTitle? refs = none :=
      Option.eq_none_iff_forall_ne_some.2 fun l hl => hnone l.index l.text
        (leadingTitle?_eq_some_iff.1 hl)
    simp [Metadata.resolve, ho, hunwritten hf, hleading]

/-- **The block that is left out** is the heading that opens the document, if its text is the final
title. -/
theorem excluded_eq_some_iff : (Metadata.resolve d o refs).excluded = some i ↔
    ∃ text, d.Opens refs i text ∧ text = Text.trimBlanks (Metadata.resolve d o refs).title := by
  simp only [Metadata.resolve, Option.map_eq_some_iff, Option.filter_eq_some_iff, beq_iff_eq]
  constructor
  · rintro ⟨⟨text, i⟩, ⟨hl, htext⟩, rfl⟩
    have hopens := leadingTitle?_eq_some_iff.1 hl
    exact ⟨text, hopens, hopens.trimBlanks_text ▸ htext⟩
  · rintro ⟨text, hopens, htext⟩
    refine ⟨⟨text, i⟩, ⟨leadingTitle?_eq_some_iff.2 hopens, ?_⟩, rfl⟩
    exact hopens.trimBlanks_text.trans htext

/-! ## The body -/

/-- The blocks of a document but for the one at a place, if there is one. -/
def blocksBut (d : Document) (place : Option Nat) : List Block :=
  (d.children.zipIdx.filter fun b => place ≠ some b.2).map (·.1)

/-- What blocks come to, those left out that come to nothing. -/
def written (refs : References) (blocks : List Block) : List String :=
  (blocks.filterMap fun b => (b.render refs (expandNote refs []) 0).value).filter (!·.isEmpty)

/-- Taking an entry out by its place, as a choice of the others by theirs. -/
theorem zipIdx_filter_ne {α : Type} (xs : List α) (i k : Nat) :
    ((xs.zipIdx k).filter fun x => some (i + k) ≠ some x.2).map (·.1) = xs.eraseIdx i := by
  induction xs generalizing i k with
  | nil => rfl
  | cons x xs ih =>
    rw [List.zipIdx_cons, List.filter_cons]
    cases i with
    | zero =>
      have hrest : (xs.zipIdx (k + 1)).filter (fun x => some (0 + k) ≠ some x.2) =
          xs.zipIdx (k + 1) := by
        refine List.filter_eq_self.2 fun y hy => ?_
        have hle := List.le_snd_of_mem_zipIdx hy
        simp
        omega
      simp only [Nat.zero_add] at hrest ⊢
      rw [hrest]
      simp
    | succ i =>
      have hne : i + 1 + k ≠ k := by omega
      have hshift : i + (k + 1) = i + 1 + k := by omega
      simp only [ne_eq, Option.some.injEq, hne, not_false_eq_true, decide_true, if_true,
        List.map_cons, List.eraseIdx_cons_succ, ← ih i (k + 1), hshift]

theorem bodyBlocks_eq (m : Metadata) : d.bodyBlocks m = d.blocksBut m.excluded := by
  unfold bodyBlocks blocksBut
  cases m.excluded with
  | none => simp
  | some i => exact (zipIdx_filter_ne d.children i 0).symm

theorem value_renderAll (refs : References) (note : NoteExpander Logged) (level : Nat)
    (bs : List Block) : (Block.renderAll refs note level bs).value =
      bs.map fun b => (b.render refs note level).value := by
  induction bs with
  | nil => rfl
  | cons b bs ih => rw [Block.renderAll, Logged.value_bind, Logged.value_bind, ih]; rfl

theorem value_renderBody (m : Metadata) :
    (d.renderBody refs m).value = Text.joinWith "\n\n" (written refs (d.blocksBut m.excluded)) := by
  rw [renderBody, Logged.value_bind, Logged.value_pure, value_renderAll, bodyBlocks_eq,
    Text.joinNonEmpty, List.filterMap_map]
  rfl

/-! ## Metadata handed in again -/

theorem resolve_resolved : Metadata.resolve d
    { o with
      title := some (Metadata.resolve d o refs).title
      authors := some (Metadata.resolve d o refs).authors
      lang := some (Metadata.resolve d o refs).lang } refs = Metadata.resolve d o refs := by
  simp [Metadata.resolve]

/-- **The title is left out where it is repeated, and nothing else is.** A root block is left out
exactly if it opens the document with the text of the final title. The body holds what all the other
root blocks come to, in their order, with blank lines between. Title, authors and language that are
handed in again as they came out give the same file with the same warnings. -/
theorem repeated_title_left_out (d : Document) (o : Options) (r : TemplateRegistry) :
    (∀ refs i, (Metadata.resolve d o refs).excluded = some i ↔ ∃ text, d.Opens refs i text ∧
      text = Text.trimBlanks (Metadata.resolve d o refs).title) ∧
    (∀ refs, d.Entitled o refs (Metadata.resolve d o refs).title) ∧
    (d.renderWith o r).typst =
      Markup.assemble (r.resolve o.style) (Metadata.resolve d o (.ofBlocks d.children))
        (Text.joinWith "\n\n" (written (.ofBlocks d.children)
          (d.blocksBut (Metadata.resolve d o (.ofBlocks d.children)).excluded))) ∧
    d.renderWith
      { o with
        title := some (d.renderWith o r).title
        authors := some (d.renderWith o r).authors
        lang := some (d.renderWith o r).lang } r = d.renderWith o r := by
  refine ⟨fun _ _ => excluded_eq_some_iff, fun _ => entitled_resolve, ?_, ?_⟩
  · rw [renderWith, ← value_renderBody]
    rfl
  · have hresolve := @resolve_resolved d o (.ofBlocks d.children)
    simp only [renderWith, hresolve]

end Document

end Typeset
