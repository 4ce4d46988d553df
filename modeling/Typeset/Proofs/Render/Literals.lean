/-
String literals in rendered markup.

A link and an image write their URL as a string literal, and a literal is one
line. Lists and quotes move the lines of what they hold, and notes trim it: none
of this touches a literal. So a reader that goes from call to call in the markup
of a block finds every link and image that the block shows, in their order, each
with its URL.
-/
import Typeset.Proofs.Markup.InOrder
import Typeset.Proofs.Markup.Literal
import Typeset.Proofs.Render.ItemLines
import Typeset.Proofs.Render.Table

namespace Typeset

/-! ## Targets -/

namespace Markup

/-- What a link or an image points at. -/
inductive Target where
  | link (url : String)
  | image (url : String)
  deriving DecidableEq

namespace Target

def url : Target → String
  | link url | image url => url

/-- What comes before the literal. -/
def opening : Target → String
  | link _ => "#link("
  | image _ => "#image("

/-- The call up to the end of the literal. -/
def written (target : Target) : String := target.opening ++ quote target.url

theorem isWord_written (target : Target) : IsWord target.written := by
  obtain ⟨name, hname, hline⟩ : ∃ name, target.opening = "#" ++ name ∧ '\n' ∉ name.toList := by
    cases target with
    | link => exact ⟨"link(", rfl, by decide⟩
    | image => exact ⟨"image(", rfl, by decide⟩
  have hwritten : target.written = (target.opening ++ "\"" ++ escapeString target.url) ++ "\"" := by
    simp [written, quote, String.append_assoc]
  refine ⟨?_, ⟨'#', (name ++ quote target.url).toList, by simp [written, hname], by decide⟩,
    ⟨(target.opening ++ "\"" ++ escapeString target.url).toList, '\"', ?_, by decide⟩, ?_⟩
  · have hliteral := not_mem_quote target.url
    simp [written, hname, hline, hliteral]
  · rw [hwritten, String.toList_append]
    rfl
  · rw [hwritten]
    exact settled_append rfl (by decide)

end Target

/-- From call to call, no backslash protects the opening, and the literal behind it is read as the
URL of a target. -/
inductive ReadsTargets : List Target → List Char → Prop
  | nil (cs : List Char) : ReadsTargets [] cs
  | cons {front cs rest : List Char} {target : Target} {targets : List Target} :
      protecting front = false → readLiteral cs = some (target.url, rest) →
        ReadsTargets targets rest →
        ReadsTargets (target :: targets) (front ++ (target.opening.toList ++ cs))

/-- The targets are written in a text one behind the other. -/
def Shows (targets : List Target) (s : String) : Prop :=
  InOrder Target.written targets s

variable {targets : List Target} {s : String}

/-- **Targets are read where they are written.** -/
theorem Shows.reads (h : Shows targets s) : ReadsTargets targets s.toList := by
  unfold Shows at h
  induction h with
  | nil => exact .nil _
  | @cons front rest target targets hfront hword h ih =>
    have hs : (front ++ target.written ++ rest).toList =
        front.toList ++ (target.opening.toList ++ ((quote target.url).toList ++ rest.toList)) := by
      simp [Target.written]
    rw [hs]
    exact .cons hfront (readLiteral_quote target.url rest.toList) ih

/-! ## Constructs -/

theorem shows_image (url : String) : Shows [.image url] (image url) := by
  have hfront : Settled "" := rfl
  exact .cons hfront (Target.isWord_written _) (.nil rfl)

/-- A blank label, which gives way to the URL, shows no target. -/
theorem Shows.link {label : String} (h : Shows targets label) (url : String) :
    Shows (.link url :: targets) (link url label) := by
  have hlabel : Shows targets (if Text.isBlankText label then escapeText url else label) := by
    split
    · rename_i hblank
      exact h.eq_nil_of_isBlankText hblank ▸ .nil (protecting_escapeText url)
    · exact h
  have hlink : Markup.link url label = "" ++ Target.written (.link url) ++
      (")[" ++ (if Text.isBlankText label then escapeText url else label) ++ "]") := by
    simp [Markup.link, Target.written, Target.opening, Target.url, String.append_assoc]
  rw [hlink]
  exact .cons rfl (Target.isWord_written _) (hlabel.within rfl rfl)

theorem Shows.call (h : Shows targets s) (function : String) : Shows targets (call function s) :=
  h.within (settled_append rfl (by decide)) rfl

theorem Shows.quoteBlock (h : Shows targets s) (level : Nat) :
    Shows targets (quoteBlock s level) := by
  have hfeed : Settled "\n" := rfl
  have hopening : Settled (Text.indent level "#quote[") := Settled.indent (by decide) level
  have hclosing : Settled (Text.indent level "]") := Settled.indent (by decide) level
  unfold Markup.quoteBlock
  split
  · rename_i hblank
    exact h.eq_nil_of_isBlankText hblank ▸ .nil ((hopening.append hfeed).append hclosing)
  · exact (((h.indent (level + 1)).before hfeed).before hclosing).behind (hopening.append hfeed)

theorem Shows.table {cells : List String} (h : AllInOrder Target.written targets cells)
    (align : List (Option Align)) (columns : Nat) : Shows targets (table align columns cells) := by
  have hfeed : Settled "\n" := rfl
  have hline {s : String} : Settled (s ++ "\n") := settled_append rfl (by decide)
  have hcells : Shows targets ("  " ++ Text.joinWith ", " cells ++ "\n" ++ ")") :=
    (((h.joinWith (by decide)).behind (by decide)).before hfeed).before (by decide)
  exact ((hcells.behind hline).behind hline).behind hline

theorem Shows.footnote {bs : List Block} {f : Block → List Target} {g : Block → Option String}
    (h : ∀ b ∈ bs, Shows (f b) ((g b).getD "")) :
    Shows (bs.flatMap f) (footnote (bs.map g)) := by
  rw [Markup.footnote, Markup.call, String.append_assoc]
  have hbody := AllInOrder.joinNonEmpty h (show Settled " " from rfl)
  exact (hbody.trimBlanks fun _ => settled_append rfl (by decide)).behind
    (settled_append rfl (by decide))

theorem settled_codeBlock (lang : Option String) (value : String) (level : Nat) :
    Settled (codeBlock lang value level) := by
  have hline {s : String} : Settled (s ++ "\n") := settled_append rfl (by decide)
  have hfence : Settled (codeFence (dropFinalNewline value)) :=
    settled_of_not_mem (by simp [codeFence, Text.replicate])
  exact hline.append (hline.append (hfence.indent level))

end Markup

/-! ## Phrasing content -/

open Markup (AllInOrder InOrder Settled Shows Target settled_append)

namespace Inline

section

variable (refs : References) (notes : String → List Target)

mutual

/-- The targets that an inline shows, given those that notes show. -/
def targets : Inline → List Target
  | .text _ | .inlineCode _ | .inlineMath _ | .lineBreak => []
  | .strong children | .emphasis children | .strike children | .highlight children
  | .subscript children | .superscript children => targetsAll children
  | .link url children => .link url :: targetsAll children
  | .linkReference identifier _ children =>
    ((refs.url? identifier).map Target.link).toList ++ targetsAll children
  | .footnoteReference identifier => notes identifier
  | .image url _ => [.image url]

def targetsAll : List Inline → List Target
  | [] => []
  | i :: is => i.targets ++ targetsAll is

end

/-- The targets that a paragraph shows: none if it gives way to the outline. -/
def paragraphTargets (children : List Inline) : List Target :=
  if isOutline refs children then [] else targetsAll refs notes children

end

section

variable {refs : References} {notes : String → List Target} {note : NoteExpander Logged}

/-- What notes show is written in what they expand to. -/
abbrev NotesShow (notes : String → List Target) (note : NoteExpander Logged) : Prop :=
  ∀ identifier, Shows (notes identifier) ((note identifier).value.getD "")

mutual

theorem shows_render (hn : NotesShow notes note) : ∀ i : Inline,
    Shows (i.targets refs notes) ((i.render refs note).value.getD "")
  | .text value => by
    rw [targets, render]
    exact .nil (Markup.protecting_escapeText value)
  | .inlineCode _ | .inlineMath _ => by
    rw [targets, render]
    exact .nil (settled_append rfl (by decide))
  | .lineBreak => by
    rw [targets, render]
    exact .nil rfl
  | .strong children | .emphasis children => by
    rw [targets, render]
    exact (shows_renderAll hn children).within rfl rfl
  | .strike children | .highlight children | .subscript children | .superscript children => by
    rw [targets, render]
    exact (shows_renderAll hn children).call _
  | .link url children => by
    rw [targets, render]
    exact (shows_renderAll hn children).link url
  | .linkReference identifier label children => by
    have hchildren := shows_renderAll hn children
    rw [targets, render, Logged.value_bind]
    cases refs.url? identifier with
    | some url => exact hchildren.link url
    | none =>
      by_cases hempty : (renderAll refs note children).value.isEmpty = true
      · -- The label, which stands for an empty text, shows no target.
        have hnone : targetsAll refs notes children = [] :=
          hchildren.eq_nil_of_isBlankText (by simp_all [Text.isBlankText])
        rw [hnone]
        have hlabel := Markup.protecting_escapeText (literalLabel label identifier)
        simpa [hempty] using show Shows [] _ from .nil hlabel
      · simpa [hempty] using hchildren
  | .footnoteReference identifier => by
    rw [targets, render]
    exact hn identifier
  | .image url _ => by
    rw [targets, render]
    exact Markup.shows_image url

theorem shows_renderAll (hn : NotesShow notes note) : ∀ is : List Inline,
    Shows (targetsAll refs notes is) (renderAll refs note is).value
  | [] => by
    rw [targetsAll]
    exact .empty
  | i :: is => by
    rw [targetsAll, renderAll, Logged.value_bind, Logged.value_bind, Logged.value_pure]
    exact (shows_render hn i).append (shows_renderAll hn is)

end

theorem shows_renderParagraph (hn : NotesShow notes note) (children : List Inline) :
    Shows (paragraphTargets refs notes children) (renderParagraph refs note children).value := by
  rw [paragraphTargets, renderParagraph_eq]
  split
  · exact .nil rfl
  · exact shows_renderAll hn children

end

end Inline

/-! ## Blocks -/

namespace Block

section

variable (refs : References) (notes : String → List Target)

mutual

/-- The targets that a block shows, given those that notes show. -/
def targets : Block → List Target
  | .frontmatter _ | .linkDefinition _ _ | .footnoteDefinition _ _ | .codeBlock _ _
  | .thematicBreak | .mathBlock _ => []
  | .heading _ children => Inline.targetsAll refs notes children
  | .paragraph children => Inline.paragraphTargets refs notes children
  | .list _ items => targetsItems items
  | .blockquote children => targetsAll children
  | .table _ rows => rows.flatten.flatMap (Inline.targetsAll refs notes)

def targetsAll : List Block → List Target
  | [] => []
  | b :: bs => b.targets ++ targetsAll bs

def targetsItems : List (List Block) → List Target
  | [] => []
  | item :: items => targetsAll item ++ targetsItems items

end

theorem targetsAll_eq (bs : List Block) :
    targetsAll refs notes bs = bs.flatMap (targets refs notes) := by
  induction bs with
  | nil => rfl
  | cons b bs ih => rw [targetsAll, ih, List.flatMap_cons]

theorem targetsItems_eq (items : List (List Block)) :
    targetsItems refs notes items = items.flatMap (targetsAll refs notes) := by
  induction items with
  | nil => rfl
  | cons item items ih => rw [targetsItems, ih, List.flatMap_cons]

end

section

variable {refs : References} {notes : String → List Target} {note : NoteExpander Logged}

/-- What a block shows is written in its markup at each level. -/
def ShowsTargets (refs : References) (notes : String → List Target) (note : NoteExpander Logged)
    (b : Block) : Prop :=
  ∀ level, Shows (b.targets refs notes) ((b.render refs note level).value.getD "")

theorem shows_itemText (hn : Inline.NotesShow notes note) {item : List Block}
    (h : ∀ b ∈ item, ShowsTargets refs notes note b) (level : Nat) (ordered : Bool) :
    Shows (targetsAll refs notes item)
      (itemText refs note level (Markup.marker ordered) item) := by
  have hmargin : Settled (Text.replicate (2 * level) ' ') :=
    Markup.settled_of_not_mem (by simp [Text.replicate])
  have hmarker : Settled (Markup.marker ordered) := by cases ordered <;> rfl
  have hunder {bs : List Block} (hbs : ∀ b ∈ bs, ShowsTargets refs notes note b) :
      AllInOrder Target.written (targetsAll refs notes bs)
        (bs.flatMap (under refs note (level + 1))) := by
    rw [targetsAll_eq]
    exact .flatMap fun b hb => .ofOption (hbs b hb (level + 1)) b.isList
  rw [itemText, Markup.item_eq]
  refine AllInOrder.joinWith ?_ rfl
  unfold belowMarker
  split
  next children rest =>
    rw [targetsAll, targets]
    refine .cons ?_ (hunder fun b hb => h b (List.mem_cons_of_mem _ hb))
    have hspace : Settled " " := rfl
    exact (((Inline.shows_renderParagraph hn children).behind hspace).behind hmarker).behind hmargin
  next hitem =>
    have hopening : openingText refs note item = none := by
      rw [openingText]
      exact hitem
    have hnothing : Settled "" := rfl
    rw [hopening]
    exact .cons (.nil (hmargin.append (hmarker.append hnothing))) (hunder h)

theorem shows_renderTable (hn : Inline.NotesShow notes note) (align : List (Option Align))
    (rows : List (List (List Inline))) (level : Nat) :
    Shows (rows.flatten.flatMap (Inline.targetsAll refs notes))
      ((renderTable refs note align rows level).value.getD "") := by
  cases rows with
  | nil => exact .empty
  | cons header body =>
    rw [renderTable, Logged.value_bind, Logged.value_bind, Logged.value_pure,
      Inline.value_renderEach, Inline.value_renderEach, List.map_map, List.map_map,
      List.flatten_cons, List.flatMap_append]
    refine InOrder.indent (Shows.table (.append (.map fun cell _ => ?_)
      (.map fun cell _ => ?_)) align header.length) level
    · exact (Inline.shows_renderAll hn cell).within rfl rfl
    · exact (Inline.shows_renderAll hn cell).within rfl rfl

mutual

theorem shows_render (hn : Inline.NotesShow notes note) :
    ∀ b : Block, ShowsTargets refs notes note b
  | .frontmatter _, _ | .linkDefinition _ _, _ | .footnoteDefinition _ _, _ => by
    rw [targets, render]
    exact .empty
  | .codeBlock lang value, level => by
    rw [targets, render]
    exact .nil (Markup.settled_codeBlock lang value level)
  | .thematicBreak, level => by
    rw [targets, render]
    exact .nil (Settled.indent (by decide) level)
  | .mathBlock _, level => by
    rw [targets, render]
    exact .nil (Settled.indent (settled_append rfl (by decide)) level)
  | .heading _ children, level => by
    rw [targets, render]
    exact InOrder.indent
      ((Inline.shows_renderAll hn children).behind (settled_append rfl (by decide))) level
  | .paragraph children, level => by
    rw [targets, render]
    exact InOrder.indent (Inline.shows_renderParagraph hn children) level
  | .list ordered items, level => by
    rw [targets, targetsItems_eq, value_render_list]
    exact AllInOrder.joinWith (.map fun item hitem =>
      shows_itemText hn (shows_renderItems hn items item hitem) level ordered) rfl
  | .blockquote children, level => by
    rw [targets, targetsAll_eq, render, Logged.value_bind, Document.value_renderAll]
    exact Shows.quoteBlock (AllInOrder.joinNonEmpty
      (fun b hb => shows_renderAll hn children b hb 0) (by decide)) level
  | .table align rows, level => by
    rw [targets, render]
    exact shows_renderTable hn align rows level

theorem shows_renderAll (hn : Inline.NotesShow notes note) : ∀ bs : List Block,
    ∀ b ∈ bs, ShowsTargets refs notes note b
  | [] => List.forall_mem_nil _
  | b :: bs => List.forall_mem_cons.2 ⟨shows_render hn b, shows_renderAll hn bs⟩

theorem shows_renderItems (hn : Inline.NotesShow notes note) : ∀ items : List (List Block),
    ∀ item ∈ items, ∀ b ∈ item, ShowsTargets refs notes note b
  | [] => List.forall_mem_nil _
  | item :: items => List.forall_mem_cons.2 ⟨shows_renderAll hn item, shows_renderItems hn items⟩

end

end

end Block

/-! ## Notes -/

namespace References

/-- The targets that a note shows while the notes `opened` are being expanded. -/
def noteTargets (refs : References) (opened : List String) (identifier : String) : List Target :=
  match _hb : refs.note? identifier with
  | none => []
  | some body =>
    let key := Text.lowercase identifier
    if _ho : key ∈ opened then []
    else Block.targetsAll refs (fun i => noteTargets refs (opened ++ [key]) i) body
termination_by (refs.closed opened).length
decreasing_by exact length_closed_append (mem_noteKeys_of_note? _hb) _ho

theorem notesShow_expandNote (refs : References) (opened : List String) :
    Inline.NotesShow (refs.noteTargets opened) (expandNote refs opened) := by
  intro identifier
  fun_induction noteTargets refs opened identifier with
  | case1 opened identifier hb =>
    rw [expandNote_undefined hb]
    exact .empty
  | case2 opened identifier body hb key ho =>
    rw [expandNote_open hb ho]
    exact .empty
  | case3 opened identifier body hb key ho ih =>
    rw [expandNote_closed hb ho, Logged.value_bind, Document.value_renderAll,
      Block.targetsAll_eq]
    exact Shows.footnote fun b _ => Block.shows_render ih b 0

end References

/-! ## Lists and quotes -/

/-- A block is another one, or stands in it below any depth of lists and quotes. -/
inductive Block.NestedIn (b : Block) : Block → Prop
  | self : NestedIn b b
  | item (ordered : Bool) {items : List (List Block)} {item : List Block} {child : Block} :
      item ∈ items → child ∈ item → NestedIn b child → NestedIn b (.list ordered items)
  | quoted {children : List Block} {child : Block} :
      child ∈ children → NestedIn b child → NestedIn b (.blockquote children)

theorem infix_flatMap {α β : Type} {a : α} {as : List α} (h : a ∈ as) (f : α → List β) :
    f a <:+: as.flatMap f := by
  rw [List.flatMap_def]
  exact List.infix_of_mem_flatten (List.mem_map_of_mem h)

/-- What a block shows is shown by the lists and quotes around it. -/
theorem Block.NestedIn.targets_infix {refs : References} {notes : String → List Target}
    {b outer : Block} (h : b.NestedIn outer) :
    b.targets refs notes <:+: outer.targets refs notes := by
  induction h with
  | self => exact List.infix_rfl
  | item ordered hitem hchild _ ih =>
    rw [targets, targetsItems_eq]
    refine ih.trans (.trans ?_ (infix_flatMap hitem _))
    rw [targetsAll_eq]
    exact infix_flatMap hchild _
  | quoted hchild _ ih =>
    rw [targets, targetsAll_eq]
    exact ih.trans (infix_flatMap hchild _)

namespace Context

open Markup (quote readLiteral ReadsTargets)

/-- The targets that a block shows here. -/
def blockTargets (c : Context) (b : Block) : List Target :=
  b.targets c.references (c.references.noteTargets c.opened)

/-- **String literals survive.** Whatever follows the literal of a text, a reader gets the text back
and stops where the literal ends. A literal is one line: wherever it stands in a text, the text in
front of it goes on in its line and the text behind it begins there, and at each level that line is
moved with the others and keeps the literal. And whatever lists and quotes a block stands in, the
markup of the outermost of them shows every link and image of the block, in their order, at each
level: no backslash protects the call, and its literal is read as the URL. -/
theorem literals_survive_nesting (c : Context) :
    (∀ (s : String) (t : List Char), readLiteral ((quote s).toList ++ t) = some (s, t)) ∧
    (∀ s, '\n' ∉ (quote s).toList) ∧
    (∀ s front back, ∃ above left right below,
      Text.lines front = above ++ [left] ∧ Text.lines back = right :: below ∧
      let line := left ++ ((quote s).toList ++ right)
      Text.lines (front ++ (quote s ++ back)) = above ++ line :: below ∧
      ∀ level, let margin := List.replicate (2 * level) ' '
        Text.lines (Text.indent level (front ++ (quote s ++ back))) =
          above.map (margin ++ ·) ++ (margin ++ line) :: below.map (margin ++ ·)) ∧
    ∀ b outer : Block, b.NestedIn outer → c.blockTargets b <:+: c.blockTargets outer ∧
      ∀ level,
        ReadsTargets (c.blockTargets outer) ((c.renderBlock outer level).1.getD "").toList := by
  refine ⟨Markup.readLiteral_quote, Markup.not_mem_quote, fun s front back => ?_,
    fun b outer h => ⟨h.targets_infix, fun level => ?_⟩⟩
  · obtain ⟨above, left, hfront⟩ :=
      (List.eq_nil_or_concat (Text.lines front)).resolve_left (List.splitOn_ne_nil _ _)
    obtain ⟨right, below, hback⟩ :=
      List.exists_cons_of_ne_nil (List.splitOn_ne_nil '\n' back.toList)
    have hliteral := Text.lines_append (Markup.not_mem_quote s) hback
    rw [List.concat_eq_append] at hfront
    have hlines := Text.lines_append_of_eq hfront hliteral
    refine ⟨above, left, right, below, hfront, hback, hlines, fun level => ?_⟩
    rw [Text.lines_indent, hlines, List.map_append, List.map_cons]
    rfl
  · have hn := References.notesShow_expandNote c.references c.opened
    exact Shows.reads (Block.shows_render hn outer level)

/-- A link whose URL needs protection, and an image. -/
def linkAndImage : Block := .paragraph [.link "a\n\"b\\" [], .image "p.png" "p"]

theorem literals_survive_nesting_links :
    let c : Context := {}
    let outer : Block := .list false [[.paragraph [.text "t"], .blockquote [linkAndImage]]]
    let out := "  - t\n    #quote[\n      " ++
      "#link(\"a\\n\\\"b\\\\\")[a\n      \"b\\\\]#image(\"p.png\")\n    ]"
    linkAndImage.NestedIn outer ∧ (c.renderBlock outer 1).1 = some out ∧
      [.link "a\n\"b\\", .image "p.png"] <:+: c.blockTargets outer ∧
      ReadsTargets (c.blockTargets outer) out.toList := by
  intro c outer out
  have hnested : linkAndImage.NestedIn outer :=
    .item false List.mem_cons_self (List.mem_cons_of_mem _ List.mem_cons_self)
      (.quoted List.mem_cons_self .self)
  have hout : (c.renderBlock outer 1).1 = some out := by decide +kernel
  have hlinks : c.blockTargets linkAndImage = [.link "a\n\"b\\", .image "p.png"] := by decide +kernel
  obtain ⟨hshown, hreads⟩ := (literals_survive_nesting c).2.2.2 linkAndImage outer hnested
  have hlevel := hreads 1
  rw [hout, Option.getD_some] at hlevel
  exact ⟨hnested, hout, hlinks ▸ hshown, hlevel⟩

end Context

end Typeset
