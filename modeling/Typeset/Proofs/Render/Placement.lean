/-
Link definitions that stand in other places.

A link definition renders to nothing, may stand before the title, and is looked
up by its identifier. So where no two have one identifier, it does not matter
where among the root blocks they stand: the other blocks come to the same file,
and the heading that is left out of it is the same.
-/
import Typeset.Proofs.Lookup
import Typeset.Proofs.Render.Interchange

namespace Typeset

namespace Block

def isLinkDefinition : Block → Bool
  | .linkDefinition _ _ => true
  | _ => false

/-- The blocks that are no link definitions. -/
def others (bs : List Block) : List Block := bs.filter (!·.isLinkDefinition)

variable {b : Block} {bs cs : List Block}

theorem others_append (bs cs : List Block) : others (bs ++ cs) = others bs ++ others cs :=
  List.filter_append ..

theorem others_cons_of_link (hb : b.isLinkDefinition = true) (bs : List Block) :
    others (b :: bs) = others bs := by
  simp [others, hb]

theorem others_cons_of_not_link (hb : b.isLinkDefinition = false) (bs : List Block) :
    others (b :: bs) = b :: others bs := by
  simp [others, hb]

theorem eq_of_isLinkDefinition (hb : b.isLinkDefinition = true) :
    ∃ identifier url, b = .linkDefinition identifier url := by
  cases b <;> cases hb
  exact ⟨_, _, rfl⟩

/-! ## What link definitions have no part in -/

theorem filterMap_others {α : Type} {f : Block → Option α}
    (hf : ∀ identifier url, f (.linkDefinition identifier url) = none) (bs : List Block) :
    (others bs).filterMap f = bs.filterMap f := by
  rw [others, List.filterMap_filter]
  congr 1
  funext b
  cases b with
  | linkDefinition identifier url => exact (hf identifier url).symm
  | _ => rfl

theorem findSome?_frontmatter_others (bs : List Block) :
    (others bs).findSome? frontmatter? = bs.findSome? frontmatter? := by
  rw [← List.head?_filterMap, ← List.head?_filterMap, filterMap_others fun _ _ => rfl]

theorem filterMap_linkEntry_filter (bs : List Block) :
    (bs.filter isLinkDefinition).filterMap References.linkEntry? =
      bs.filterMap References.linkEntry? := by
  rw [List.filterMap_filter]
  congr 1
  funext b
  cases b <;> rfl

section

variable (refs : References) (note : NoteExpander Logged) (level : Nat)

theorem filterMap_renderAll_cons (b : Block) (bs : List Block) :
    List.filterMap id <$> renderAll refs note level (b :: bs) = (do
      let first ← b.render refs note level
      let rest ← List.filterMap id <$> renderAll refs note level bs
      return first.toList ++ rest) := by
  simp only [renderAll, map_bind, map_pure, bind_map_left]
  congr 1
  funext first
  cases first with
  | none => simp
  | some markup => simp

theorem filterMap_renderAll_others (bs : List Block) :
    List.filterMap id <$> renderAll refs note level (others bs) =
      List.filterMap id <$> renderAll refs note level bs := by
  induction bs with
  | nil => rfl
  | cons b bs ih =>
    cases hb : b.isLinkDefinition with
    | true =>
      obtain ⟨identifier, url, rfl⟩ := eq_of_isLinkDefinition hb
      rw [others_cons_of_link hb, ih, filterMap_renderAll_cons, render]
      simp only [pure_bind, Option.toList_none, List.nil_append, bind_pure]
    | false =>
      rw [others_cons_of_not_link hb, filterMap_renderAll_cons, filterMap_renderAll_cons, ih]

end

/-! ## The same place -/

/-- Places in two lists that hold one block, the other blocks before it and behind it the same. -/
structure SameSpot (bs cs : List Block) (i j : Nat) : Prop where
  block : ∃ b, bs[i]? = some b ∧ cs[j]? = some b
  before : others (bs.take i) = others (cs.take j)
  behind : others (bs.drop (i + 1)) = others (cs.drop (j + 1))

theorem SameSpot.eraseIdx {i j : Nat} (h : SameSpot bs cs i j) :
    others (bs.eraseIdx i) = others (cs.eraseIdx j) := by
  rw [List.eraseIdx_eq_take_drop_succ, List.eraseIdx_eq_take_drop_succ, others_append,
    others_append, h.before, h.behind]

/-- Link definitions may stand before the title, so the blocks before it keep their order. -/
theorem others_takeWhile (bs : List Block) :
    others (bs.takeWhile isPreamble) = (others bs).takeWhile isPreamble := by
  induction bs with
  | nil => rfl
  | cons b bs ih =>
    cases hb : b.isLinkDefinition with
    | true =>
      obtain ⟨identifier, url, rfl⟩ := eq_of_isLinkDefinition hb
      simp only [List.takeWhile_cons, isPreamble, others_cons_of_link hb, ih, if_true]
    | false =>
      rw [others_cons_of_not_link hb, List.takeWhile_cons, List.takeWhile_cons]
      split
      · rw [others_cons_of_not_link hb, ih]
      · rfl

theorem others_dropWhile (bs : List Block) :
    others (bs.dropWhile isPreamble) = (others bs).dropWhile isPreamble := by
  have hsame : (others bs).takeWhile isPreamble ++ others (bs.dropWhile isPreamble) =
      (others bs).takeWhile isPreamble ++ (others bs).dropWhile isPreamble := by
    rw [← others_takeWhile, ← others_append, List.takeWhile_append_dropWhile, others_takeWhile,
      List.takeWhile_append_dropWhile]
  exact List.append_cancel_left hsame

theorem not_link_of_dropWhile {rest : List Block} (h : bs.dropWhile isPreamble = b :: rest) :
    b.isLinkDefinition = false := by
  have hb : b.isPreamble = false := by
    have hhead := List.head?_dropWhile_not isPreamble bs
    rw [h] at hhead
    exact hhead
  cases b <;> first | rfl | cases hb

/-- The place where the preamble ends. -/
theorem preambleEnd (h : others bs = others cs) {rest rest' : List Block} {c : Block}
    (hbs : bs.dropWhile isPreamble = b :: rest) (hcs : cs.dropWhile isPreamble = c :: rest') :
    b = c ∧ SameSpot bs cs (bs.takeWhile isPreamble).length (cs.takeWhile isPreamble).length := by
  have hrest : b :: others rest = c :: others rest' := by
    rw [← others_cons_of_not_link (not_link_of_dropWhile hbs),
      ← others_cons_of_not_link (not_link_of_dropWhile hcs), ← hbs, ← hcs, others_dropWhile,
      others_dropWhile, h]
  obtain ⟨rfl, hbehind⟩ := List.cons_eq_cons.1 hrest
  have hbefore : others (bs.takeWhile isPreamble) = others (cs.takeWhile isPreamble) := by
    rw [others_takeWhile, others_takeWhile, h]
  have hb : bs = bs.takeWhile isPreamble ++ b :: rest := by
    rw [← hbs, List.takeWhile_append_dropWhile]
  have hc : cs = cs.takeWhile isPreamble ++ b :: rest' := by
    rw [← hcs, List.takeWhile_append_dropWhile]
  generalize bs.takeWhile isPreamble = before at hb hbefore ⊢
  generalize cs.takeWhile isPreamble = before' at hc hbefore ⊢
  subst hb hc
  refine ⟨rfl, ⟨b, ?_, ?_⟩, ?_, ?_⟩
  · simp
  · simp
  · simpa using hbefore
  · simpa using hbehind

end Block

/-! ## Documents -/

namespace Document

/-- The identifiers of the link definitions among the root blocks, in lower case. -/
def linkKeys (d : Document) : List String := (d.children.filterMap References.linkEntry?).map (·.1)

/-- Documents whose root blocks are the same up to where the link definitions stand among them. -/
structure LinksMoved (d e : Document) : Prop where
  links : (d.children.filter Block.isLinkDefinition).Perm (e.children.filter Block.isLinkDefinition)
  others : Block.others d.children = Block.others e.children

namespace LinksMoved

variable {d e : Document} {refs refs' : References} {o : Options}

/-- **Each identifier keeps its definition.** -/
theorem interchangeable (h : d.LinksMoved e) (hd : d.linkKeys.Nodup) :
    (References.ofBlocks d.children).Interchangeable (.ofBlocks e.children) := by
  have hentries : (d.children.filterMap References.linkEntry?).Perm
      (e.children.filterMap References.linkEntry?) := by
    rw [← Block.filterMap_linkEntry_filter, ← Block.filterMap_linkEntry_filter e.children]
    exact h.links.filterMap _
  have hnotes : (References.ofBlocks d.children).notes = (References.ofBlocks e.children).notes := by
    rw [References.notes_ofBlocks, References.notes_ofBlocks,
      ← Block.filterMap_others (fun _ _ => rfl), h.others, Block.filterMap_others fun _ _ => rfl]
  constructor
  · intro identifier
    rw [References.url?, References.url?, References.links_ofBlocks, References.links_ofBlocks]
    have hd' : ((d.children.filterMap References.linkEntry?).reverse.map (·.1)).Nodup := by
      rw [List.map_reverse, List.nodup_reverse]
      exact hd
    have hreversed := (List.reverse_perm _).trans (hentries.trans (List.reverse_perm _).symm)
    exact (lookup_perm hreversed.symm hd' _).symm
  · intro identifier
    rw [References.note?, References.note?, hnotes]
    cases (References.ofBlocks e.children).notes.lookup (Text.lowercase identifier) with
    | none => exact .none
    | some body => exact .some (.refl body)

/-- The heading that opens the document is the same one, wherever it stands now. -/
theorem leadingTitle? (h : d.LinksMoved e) (hu : refs.SameUrls refs') :
    Option.Rel (fun l l' => l.text = l'.text ∧
        Block.SameSpot d.children e.children l.index l'.index)
      (d.leadingTitle? refs) (e.leadingTitle? refs') := by
  have hrest : Block.others (d.children.dropWhile Block.isPreamble) =
      Block.others (e.children.dropWhile Block.isPreamble) := by
    rw [Block.others_dropWhile, Block.others_dropWhile, h.others]
  unfold Document.leadingTitle?
  match hd : d.children.dropWhile Block.isPreamble, he : e.children.dropWhile Block.isPreamble with
  | [], [] => exact .none
  | [], c :: rest' =>
    rw [hd, he, Block.others_cons_of_not_link (Block.not_link_of_dropWhile he)] at hrest
    cases hrest
  | b :: rest, [] =>
    rw [hd, he, Block.others_cons_of_not_link (Block.not_link_of_dropWhile hd)] at hrest
    cases hrest
  | b :: rest, c :: rest' =>
    obtain ⟨rfl, hspot⟩ := Block.preambleEnd h.others hd he
    simp only [titleText?_of_sameUrls hu]
    cases b.titleText? refs' with
    | none => exact .none
    | some text => exact .some ⟨rfl, hspot⟩

/-- The metadata of documents with moved link definitions. -/
structure Resolved (d e : Document) (m m' : Metadata) : Prop where
  title : m.title = m'.title
  authors : m.authors = m'.authors
  lang : m.lang = m'.lang
  excluded : Option.Rel (Block.SameSpot d.children e.children) m.excluded m'.excluded

theorem resolved (h : d.LinksMoved e) (hu : refs.SameUrls refs') :
    Resolved d e (.resolve d o refs) (.resolve e o refs') := by
  have hfrontmatter : d.frontmatter = e.frontmatter := by
    rw [frontmatter, frontmatter, ← Block.findSome?_frontmatter_others, h.others,
      Block.findSome?_frontmatter_others]
  unfold Metadata.resolve
  rw [hfrontmatter]
  have hleading := h.leadingTitle? hu
  generalize d.leadingTitle? refs = leading at hleading ⊢
  generalize e.leadingTitle? refs' = leading' at hleading ⊢
  cases hleading with
  | none => exact ⟨rfl, rfl, rfl, .none⟩
  | @some l l' hl =>
    obtain ⟨htext, hspot⟩ := hl
    simp only [Option.filter_some, Option.map_some, htext]
    refine ⟨rfl, rfl, rfl, ?_⟩
    -- Either heading repeats the title, or neither.
    cases Text.trimBlanks l'.text ==
      Text.trimBlanks (((o.title.or e.frontmatter.title).or (some l'.text)).getD "") with
    | true => exact .some hspot
    | false => exact .none

theorem Resolved.bodyBlocks {m m' : Metadata} (h : d.LinksMoved e) (hm : Resolved d e m m') :
    Block.others (d.bodyBlocks m) = Block.others (e.bodyBlocks m') := by
  unfold Document.bodyBlocks
  match m.excluded, m'.excluded, hm.excluded with
  | none, none, .none => exact h.others
  | some i, some j, .some hspot => exact hspot.eraseIdx

end LinksMoved

/-- Link definitions have no part in a body. -/
theorem renderBody_eq_others (d : Document) (refs : References) (m : Metadata) :
    d.renderBody refs m = Text.joinNonEmpty "\n\n" <$>
      Block.renderAll refs (expandNote refs []) 0 (Block.others (d.bodyBlocks m)) := by
  have hjoin : Text.joinNonEmpty "\n\n" =
      (fun parts => Text.joinWith "\n\n" (parts.filter (!·.isEmpty))) ∘ List.filterMap id := rfl
  rw [hjoin, comp_map, Block.filterMap_renderAll_others, ← comp_map, ← hjoin, renderBody,
    bind_pure_comp]

/-- **Where link definitions stand does not matter.** Where no two of them have one identifier,
moving them among the root blocks changes nothing of the file, its title, its authors, its
language and the warnings, and the heading that is left out of the body is the same. -/
theorem renderWith_of_linksMoved {d e : Document} (hd : d.linkKeys.Nodup) (h : d.LinksMoved e)
    (o : Options) (r : TemplateRegistry) : d.renderWith o r = e.renderWith o r ∧
      Option.Rel (Block.SameSpot d.children e.children)
        (Metadata.resolve d o (.ofBlocks d.children)).excluded
        (Metadata.resolve e o (.ofBlocks e.children)).excluded := by
  have hrefs := h.interchangeable hd
  have hm := h.resolved hrefs.urls (o := o)
  refine ⟨renderWith_congr rfl rfl hm.title hm.authors hm.lang ?_ r, hm.excluded⟩
  rw [renderBody_eq_others, renderBody_eq_others, hm.bodyBlocks h, hrefs.renderAll_eq]

/-- A title between two link definitions. -/
def scattered : Document :=
  ⟨[.linkDefinition "A" "u", .heading 1 [.text "T"], .linkDefinition "b" "v",
    .paragraph [.linkReference "a" none []]]⟩

/-- The same with the link definitions at the end. -/
def gathered : Document :=
  ⟨[.heading 1 [.text "T"], .paragraph [.linkReference "a" none []], .linkDefinition "b" "v",
    .linkDefinition "A" "u"]⟩

theorem renderWith_scattered : scattered.linkKeys.Nodup ∧ scattered.LinksMoved gathered ∧
    scattered.renderWith {} .builtin = gathered.renderWith {} .builtin ∧
      (Metadata.resolve scattered {} (.ofBlocks scattered.children)).excluded = some 1 ∧
      (Metadata.resolve gathered {} (.ofBlocks gathered.children)).excluded = some 0 := by
  have hkeys : scattered.linkKeys.Nodup := by decide
  have hmoved : scattered.LinksMoved gathered := ⟨.swap _ _ [], rfl⟩
  have hrender := renderWith_of_linksMoved hkeys hmoved {} .builtin
  exact ⟨hkeys, hmoved, hrender.1, by decide, by decide⟩

end Document

end Typeset
