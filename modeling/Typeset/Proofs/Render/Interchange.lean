/-
Blocks that stand in for others.

A block stands in for another if it comes to the same markup at every level and
says the same of the document that it is a root block of: its title, its
metadata, its link, and a note whose body comes to the same markup. Documents
whose blocks stand in for one another, one by one, come to the same file with
the same warnings.
-/
import Mathlib.Data.List.Forall2
import Typeset.Proofs.Render.Related
import Typeset.Render

namespace Typeset

/-! ## Tables -/

/-- Steps that are the same. -/
def StepRelation.same : StepRelation Logged Logged where
  rel x y := x = y
  pure _ := rfl
  bind hx hf := by rw [hx, funext hf]
  warn _ := rfl

/-- A block that comes to the same markup as another, whatever references in it expand to. -/
def Block.RendersAs (b c : Block) : Prop :=
  ∀ (refs : References) (note : NoteExpander Logged) (level : Nat),
    b.render refs note level = c.render refs note level

/-- Blocks that come to the same markups as others, whatever references in them expand to. -/
def Block.SameMarkup (bs cs : List Block) : Prop :=
  ∀ (refs : References) (note : NoteExpander Logged) (level : Nat),
    Block.renderAll refs note level bs = Block.renderAll refs note level cs

/-- Tables with the same URLs, and notes of the same markup for the same identifiers. -/
structure References.Interchangeable (refs refs' : References) : Prop where
  urls : refs.SameUrls refs'
  notes : ∀ id, Option.Rel Block.SameMarkup (refs.note? id) (refs'.note? id)

/-- **References expand to the same over interchangeable tables.** -/
theorem References.Interchangeable.expandNote_eq {refs refs' : References}
    (h : refs.Interchangeable refs') (opened : List String) (id : String) :
    expandNote refs opened id = expandNote refs' opened id := by
  match hn : refs.note? id, hn' : refs'.note? id, h.notes id with
  | none, none, .none => rw [expandNote_undefined hn, expandNote_undefined hn']
  | some body, some body', .some hbody =>
    by_cases ho : Text.lowercase id ∈ opened
    · rw [expandNote_open hn ho, expandNote_open hn' ho]
    · have hk := References.mem_noteKeys_of_note? hn
      have hinner : StepRelation.same.Alike refs refs'
          (expandNote refs (opened ++ [Text.lowercase id]))
          (expandNote refs' (opened ++ [Text.lowercase id])) :=
        ⟨h.urls, fun id' => h.expandNote_eq (opened ++ [Text.lowercase id]) id'⟩
      -- First the other body over the same table, then the other table under it.
      have hparts : Block.renderAll refs (expandNote refs (opened ++ [Text.lowercase id])) 0 body =
          Block.renderAll refs' (expandNote refs' (opened ++ [Text.lowercase id])) 0 body' :=
        (hbody refs _ 0).trans (hinner.blocks 0 body')
      rw [expandNote_closed hn ho, expandNote_closed hn' ho, hparts]
termination_by (refs.closed opened).length
decreasing_by exact References.length_closed_append hk ho

theorem References.Interchangeable.renderAll_eq {refs refs' : References}
    (h : refs.Interchangeable refs') (bs : List Block) :
    Block.renderAll refs (expandNote refs []) 0 bs =
      Block.renderAll refs' (expandNote refs' []) 0 bs :=
  have halike : StepRelation.same.Alike refs refs' (expandNote refs []) (expandNote refs' []) :=
    ⟨h.urls, h.expandNote_eq []⟩
  halike.blocks 0 bs

/-! ## Blocks -/

/-- A block that comes to the same as another, as a block and as one of the root blocks. -/
structure Block.StandsIn (b c : Block) : Prop where
  markup : b.RendersAs c
  preamble : b.isPreamble = c.isPreamble
  frontmatter : b.frontmatter? = c.frontmatter?
  title : ∀ refs, b.titleText? refs = c.titleText? refs
  link : References.linkEntry? b = References.linkEntry? c
  note : Option.Rel (fun e e' => e.1 = e'.1 ∧ Block.SameMarkup e.2 e'.2)
    (References.noteEntry? b) (References.noteEntry? c)

namespace Block

theorem SameMarkup.refl (bs : List Block) : SameMarkup bs bs := fun _ _ _ => rfl

theorem SameMarkup.of_forall₂ {bs cs : List Block} (h : List.Forall₂ RendersAs bs cs) :
    SameMarkup bs cs := by
  intro refs note level
  induction h with
  | nil => rfl
  | cons hb _ ih => rw [renderAll, renderAll, hb, ih]

theorem StandsIn.refl (b : Block) : StandsIn b b where
  markup _ _ _ := rfl
  preamble := rfl
  frontmatter := rfl
  title _ := rfl
  link := rfl
  note := by
    cases References.noteEntry? b with
    | none => exact .none
    | some e => exact .some ⟨rfl, .refl _⟩

/-- Blocks that stand in for others, one by one. -/
abbrev StandIn : List Block → List Block → Prop := List.Forall₂ StandsIn

variable {bs cs : List Block}

theorem StandIn.sameMarkup (h : StandIn bs cs) : SameMarkup bs cs :=
  .of_forall₂ (h.imp fun _ _ hb => hb.markup)

theorem StandIn.findSome?_frontmatter (h : StandIn bs cs) :
    bs.findSome? frontmatter? = cs.findSome? frontmatter? := by
  induction h with
  | nil => rfl
  | cons hb _ ih => rw [List.findSome?_cons, List.findSome?_cons, hb.frontmatter, ih]

theorem StandIn.filterMap_linkEntry (h : StandIn bs cs) :
    bs.filterMap References.linkEntry? = cs.filterMap References.linkEntry? := by
  induction h with
  | nil => rfl
  | cons hb _ ih => rw [List.filterMap_cons, List.filterMap_cons, hb.link, ih]

/-- The blocks that come before the heading that opens a document are as many. -/
theorem StandIn.length_preamble (h : StandIn bs cs) :
    (bs.takeWhile isPreamble).length = (cs.takeWhile isPreamble).length := by
  induction h with
  | nil => rfl
  | cons hb _ ih =>
    rw [List.takeWhile_cons, List.takeWhile_cons, hb.preamble]
    split
    · rw [List.length_cons, List.length_cons, ih]
    · rfl

theorem StandIn.dropWhile_preamble (h : StandIn bs cs) :
    StandIn (bs.dropWhile isPreamble) (cs.dropWhile isPreamble) := by
  induction h with
  | nil => exact .nil
  | cons hb hrest ih =>
    rw [List.dropWhile_cons, List.dropWhile_cons, hb.preamble]
    split
    · exact ih
    · exact .cons hb hrest

theorem StandIn.eraseIdx (h : StandIn bs cs) (i : Nat) :
    StandIn (bs.eraseIdx i) (cs.eraseIdx i) := by
  induction h generalizing i with
  | nil => exact .nil
  | cons hb hrest ih =>
    cases i with
    | zero => exact hrest
    | succ i => exact .cons hb (ih i)

end Block

theorem lookup_rel {κ α : Type} [BEq κ] {R : α → α → Prop} {es ds : List (κ × α)}
    (h : List.Forall₂ (fun e d => e.1 = d.1 ∧ R e.2 d.2) es ds) (key : κ) :
    Option.Rel R (es.lookup key) (ds.lookup key) := by
  induction h with
  | nil => exact .none
  | @cons e d es ds hed _ ih =>
    rw [List.lookup_cons, List.lookup_cons, ← hed.1]
    split
    · exact .some hed.2
    · exact ih

/-- Tables of the same links, and of notes with the same markup. -/
theorem References.interchangeable_ofBlocks {bs cs : List Block}
    (hlinks : bs.filterMap linkEntry? = cs.filterMap linkEntry?)
    (hnotes : List.Forall₂ (fun e e' => e.1 = e'.1 ∧ Block.SameMarkup e.2 e'.2)
      (bs.filterMap noteEntry?) (cs.filterMap noteEntry?)) :
    (References.ofBlocks bs).Interchangeable (References.ofBlocks cs) := by
  constructor
  · intro id
    rw [url?, url?, links_ofBlocks, links_ofBlocks, hlinks]
  · intro id
    rw [note?, note?, notes_ofBlocks, notes_ofBlocks]
    exact lookup_rel (List.forall₂_reverse_iff.2 hnotes) _

/-- **Blocks that stand in for others make an interchangeable table.** -/
theorem Block.StandIn.interchangeable {bs cs : List Block} (h : StandIn bs cs) :
    (References.ofBlocks bs).Interchangeable (References.ofBlocks cs) :=
  References.interchangeable_ofBlocks h.filterMap_linkEntry
    (List.rel_filterMap (fun _ _ hb => Block.StandsIn.note hb) h)

/-! ## Documents -/

namespace Document

variable {d e : Document} {o : Options} {refs refs' : References}

theorem titleText?_of_sameUrls (h : refs.SameUrls refs') (b : Block) :
    b.titleText? refs = b.titleText? refs' := by
  cases b <;> simp only [Block.titleText?, Inline.plainTexts_of_sameUrls h]

theorem leadingTitle?_of_standIn (h : Block.StandIn d.children e.children)
    (hu : refs.SameUrls refs') : d.leadingTitle? refs = e.leadingTitle? refs' := by
  have hrest := h.dropWhile_preamble
  rw [leadingTitle?, leadingTitle?, h.length_preamble]
  revert hrest
  generalize d.children.dropWhile Block.isPreamble = bs
  generalize e.children.dropWhile Block.isPreamble = cs
  intro hrest
  cases hrest with
  | nil => rfl
  | cons hb _ => simp only [hb.title, titleText?_of_sameUrls hu]

theorem resolve_of_standIn (h : Block.StandIn d.children e.children) (hu : refs.SameUrls refs') :
    Metadata.resolve d o refs = Metadata.resolve e o refs' := by
  have hfrontmatter : d.frontmatter = e.frontmatter := by
    rw [frontmatter, frontmatter, h.findSome?_frontmatter]
  simp only [Metadata.resolve, hfrontmatter, leadingTitle?_of_standIn h hu]

theorem bodyBlocks_of_standIn (h : Block.StandIn d.children e.children) (m : Metadata) :
    Block.StandIn (d.bodyBlocks m) (e.bodyBlocks m) := by
  unfold bodyBlocks
  cases m.excluded with
  | none => exact h
  | some index => exact h.eraseIdx index

theorem renderBody_of_interchangeable (h : refs.Interchangeable refs') {m m' : Metadata}
    (hblocks : Block.SameMarkup (d.bodyBlocks m) (e.bodyBlocks m')) :
    d.renderBody refs m = e.renderBody refs' m' := by
  have hparts := (hblocks refs (expandNote refs []) 0).trans (h.renderAll_eq (e.bodyBlocks m'))
  rw [renderBody, renderBody, hparts]

/-- A file is known from its title, authors, language and body. -/
theorem renderWith_congr {m m' : Metadata} (hm : m = .resolve d o (.ofBlocks d.children))
    (hm' : m' = .resolve e o (.ofBlocks e.children)) (htitle : m.title = m'.title)
    (hauthors : m.authors = m'.authors) (hlang : m.lang = m'.lang)
    (hbody : d.renderBody (.ofBlocks d.children) m = e.renderBody (.ofBlocks e.children) m')
    (r : TemplateRegistry) : d.renderWith o r = e.renderWith o r := by
  simp only [renderWith, Markup.assemble, Markup.showRule, Markup.arguments, ← hm, ← hm', htitle,
    hauthors, hlang, hbody]

/-- **Documents of blocks that stand in for one another render the same.** -/
theorem renderWith_of_standIn (h : Block.StandIn d.children e.children) (o : Options)
    (r : TemplateRegistry) : d.renderWith o r = e.renderWith o r := by
  have hrefs := h.interchangeable
  have hm : Metadata.resolve d o (.ofBlocks d.children) =
      Metadata.resolve e o (.ofBlocks e.children) := resolve_of_standIn h hrefs.urls
  refine renderWith_congr rfl hm rfl rfl rfl ?_ r
  exact renderBody_of_interchangeable hrefs (bodyBlocks_of_standIn h _).sameMarkup

end Document

end Typeset
