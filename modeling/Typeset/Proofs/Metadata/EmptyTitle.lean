/-
Titles that are empty.

An empty title does not keep a later line from giving one, but where no line
does, the field is an empty title and not an unset one. Nothing else tells a
block from the same block without its empty titles. In a document this hides the
heading that opens it: the title stays empty, and the heading in the body.
-/
import Typeset.Proofs.Metadata.Occurrence
import Typeset.Proofs.Render.Interchange
import Typeset.Proofs.Render.Title

namespace Typeset

namespace Frontmatter

variable {line : List Char} {lines : List (List Char)}

/-- A line with the key of the title and nothing that its value is. -/
def EmptyTitle (line : List Char) : Prop := Writes ["title"] line ""

instance : DecidablePred EmptyTitle := fun _ => decidable_of_iff _ value?_eq_some_iff

/-- A line, and an empty one in place of an empty title. -/
def clearLine (line : List Char) : List Char := if EmptyTitle line then [] else line

/-- A block with an empty line in place of every empty title. -/
def clearTitles (raw : String) : String :=
  String.ofList (['\n'].intercalate ((raw.toList.splitOn '\n').map fun line =>
    if EmptyTitle (dropReturns line) then [] else line))

theorem linesOf_clearTitles (raw : String) :
    linesOf (clearTitles raw) = (linesOf raw).map clearLine := by
  rw [linesOf_of_toList (by rw [clearTitles, String.toList_ofList])]
  · rw [linesOf, List.map_map, List.map_map]
    refine List.map_congr_left fun l _ => ?_
    simp only [Function.comp_apply, clearLine]
    split <;> rfl
  · simp [List.splitOn_ne_nil]
  · rw [List.forall_mem_map]
    intro l hl
    split
    · simp
    · exact Text.not_mem_of_mem_splitOn hl

/-! ## Fields -/

theorem splitKey?_nil : splitKey? [] = none := splitKey?_of_not_mem (by simp)

theorem EmptyTitle.splitKey? (h : EmptyTitle line) :
    ∃ rest, splitKey? line = some ("title".toList, rest) := by
  obtain ⟨key, hkey, rest, hk, -⟩ := h
  obtain rfl := List.mem_singleton.1 hkey
  exact ⟨rest, hk.splitKey?⟩

theorem EmptyTitle.listItem? (h : EmptyTitle line) : listItem? line = none := by
  obtain ⟨key, hkey, rest, hk, -⟩ := h
  obtain rfl := List.mem_singleton.1 hkey
  exact Option.eq_none_iff_forall_ne_some.2 fun text ht =>
    absurd ((listItem?_eq_some_iff.1 ht).head?_key hk) (by decide)

theorem clearLine_of_emptyTitle (h : EmptyTitle line) : clearLine line = [] := if_pos h

theorem clearLine_of_not (h : ¬ EmptyTitle line) : clearLine line = line := if_neg h

theorem setBy_clearLine (value : Option String) (line : List Char) :
    setBy ["lang", "language"] value (clearLine line) = setBy ["lang", "language"] value line := by
  by_cases h : EmptyTitle line
  · obtain ⟨rest, hsplit⟩ := h.splitKey?
    rw [clearLine_of_emptyTitle h]
    simp [setBy, rest?, hsplit, splitKey?_nil]
  · rw [clearLine_of_not h]

/-- An empty title ends a run of items, and so does the line in its place. -/
theorem listItems_map_clearLine (lines : List (List Char)) :
    (listItems (lines.map clearLine)).1 = (listItems lines).1 := by
  induction lines with
  | nil => rfl
  | cons line lines ih =>
    by_cases h : EmptyTitle line
    · rw [List.map_cons, clearLine_of_emptyTitle h, listItems, listItems, h.listItem?]
      rfl
    · rw [List.map_cons, clearLine_of_not h, listItems, listItems]
      split <;> simp [ih]

theorem names?_clearLine (line : List Char) (lines : List (List Char)) :
    names? (clearLine line) (lines.map clearLine) = names? line lines := by
  by_cases h : EmptyTitle line
  · obtain ⟨rest, hsplit⟩ := h.splitKey?
    rw [clearLine_of_emptyTitle h]
    simp [names?, hsplit, splitKey?_nil]
  · rw [clearLine_of_not h]
    simp only [names?, listItems_map_clearLine]

theorem firstNames?_map_clearLine (lines : List (List Char)) :
    firstNames? (lines.map clearLine) = firstNames? lines := by
  induction lines with
  | nil => rfl
  | cons line lines ih => rw [List.map_cons, firstNames?, firstNames?, names?_clearLine, ih]

/-- The first value stays, and is all that is left of the title. -/
theorem title_map_clearLine (lines : List (List Char)) :
    (lines.map clearLine).foldl (setBy ["title"]) none = firstValue? ["title"] lines := by
  have hvalue : ∀ line, (value? ["title"] (clearLine line)).filter (· ≠ "") =
      (value? ["title"] line).filter (· ≠ "") := by
    intro line
    by_cases h : EmptyTitle line
    · have hempty : value? ["title"] line = some "" := value?_eq_some_iff.2 h
      rw [clearLine_of_emptyTitle h, hempty]
      rfl
    · rw [clearLine_of_not h]
  have hfirst : firstValue? ["title"] (lines.map clearLine) = firstValue? ["title"] lines := by
    rw [firstValue?, List.findSome?_map]
    exact congrArg (lines.findSome? ·) (funext hvalue)
  rw [foldl_setBy (by decide), hfirst]
  cases hnone : firstValue? ["title"] lines with
  | some value => rfl
  | none =>
    have hwritten : isWritten ["title"] (lines.map clearLine) = false := by
      rw [isWritten_eq_false_iff, List.forall_mem_map]
      intro line hline key hkey rest hrest
      by_cases h : EmptyTitle line
      · rw [clearLine_of_emptyTitle h] at hrest
        cases splitKey?_nil.symm.trans hrest.splitKey?
      · rw [clearLine_of_not h] at hrest
        have hvalue : Unquotes rest (unquote (String.ofList rest)).toList :=
          unquotes_toList_iff.2 rfl
        have hempty :=
          firstValue?_eq_none_iff.1 hnone line hline _ ⟨key, hkey, rest, hrest, hvalue⟩
        rw [hempty] at hvalue
        exact absurd ⟨key, hkey, rest, hrest, hvalue⟩ h
    rw [hwritten]
    rfl

theorem filter_title (lines : List (List Char)) :
    (lines.foldl (setBy ["title"]) none).filter (· ≠ "") = firstValue? ["title"] lines := by
  rw [foldl_setBy (by decide)]
  cases hfirst : firstValue? ["title"] lines with
  | some value => simp [Option.filter_some, ne_of_firstValue? hfirst]
  | none =>
    rw [Option.none_or]
    split <;> rfl

/-- **A block without its empty titles** reads the same, but that no title of it is empty. -/
theorem read_clearTitles (raw : String) : read (clearTitles raw) =
    { read raw with title := (read raw).title.filter (· ≠ "") } := by
  have hlang : ((linesOf raw).map clearLine).foldl (setBy ["lang", "language"]) none =
      (linesOf raw).foldl (setBy ["lang", "language"]) none := by
    simp only [List.foldl_map, setBy_clearLine]
  simp only [read_eq, linesOf_clearTitles, hlang, title_map_clearLine, firstNames?_map_clearLine,
    filter_title]

theorem read_clearTitles_ne_iff (raw : String) :
    read (clearTitles raw) ≠ read raw ↔ (read raw).title = some "" := by
  rw [read_clearTitles]
  obtain ⟨lang, title, authors⟩ := read raw
  cases title with
  | none => simp
  | some title => by_cases hempty : title = "" <;> simp [Option.filter_some, hempty]

/-- **The title of a block is empty** where a line writes something for it, and no line a value. -/
theorem title_eq_empty_iff (raw : String) : (read raw).title = some "" ↔
    (∃ line ∈ linesOf raw, ∃ rest, HasKey line "title" rest ∧ rest ≠ []) ∧
      ∀ line ∈ linesOf raw, ∀ value, Writes ["title"] line value → value = "" := by
  have hwritten : (∃ line ∈ linesOf raw, ∃ rest, HasKey line "title" rest ∧ rest ≠ []) ↔
      isWritten ["title"] (linesOf raw) = true := by
    rw [← Bool.not_eq_false, isWritten_eq_false_iff]
    simp
  simp only [hwritten, ← firstValue?_eq_none_iff, read_eq]
  rw [foldl_setBy (by decide)]
  cases hfirst : firstValue? ["title"] (linesOf raw) with
  | some value => simp [ne_of_firstValue? hfirst]
  | none => simp

end Frontmatter

namespace Block

mutual

/-- A block without the empty titles in the metadata that it is or holds. -/
def clearTitles : Block → Block
  | .frontmatter value => .frontmatter (Frontmatter.clearTitles value)
  | .footnoteDefinition identifier children => .footnoteDefinition identifier (clearAll children)
  | .blockquote children => .blockquote (clearAll children)
  | .list ordered items => .list ordered (clearItems items)
  | .linkDefinition identifier url => .linkDefinition identifier url
  | .heading depth children => .heading depth children
  | .paragraph children => .paragraph children
  | .table align rows => .table align rows
  | .codeBlock lang value => .codeBlock lang value
  | .thematicBreak => .thematicBreak
  | .mathBlock value => .mathBlock value

def clearAll : List Block → List Block
  | [] => []
  | b :: bs => b.clearTitles :: clearAll bs

def clearItems : List (List Block) → List (List Block)
  | [] => []
  | item :: items => clearAll item :: clearItems items

end

theorem clearAll_eq_map (bs : List Block) : clearAll bs = bs.map clearTitles := by
  induction bs with
  | nil => rfl
  | cons b bs ih => rw [clearAll, ih, List.map_cons]

theorem frontmatter?_clearTitles (b : Block) : b.clearTitles.frontmatter? =
    b.frontmatter?.map fun f => { f with title := f.title.filter (· ≠ "") } := by
  cases b with
  | frontmatter value =>
    exact congrArg some (Frontmatter.read_clearTitles value)
  | _ => rfl

theorem isPreamble_clearTitles (b : Block) : b.clearTitles.isPreamble = b.isPreamble := by
  cases b <;> rfl

theorem linkEntry?_clearTitles (b : Block) :
    References.linkEntry? b.clearTitles = References.linkEntry? b := by
  cases b <;> rfl

theorem titleText?_clearTitles (refs : References) (b : Block) :
    b.clearTitles.titleText? refs = b.titleText? refs := by
  cases b <;> rfl

end Block

namespace Document

variable {d : Document} {o : Options} {refs refs' : References} {i : Nat} {text : String}

/-- A document without the empty titles in its metadata. -/
def clearTitles (d : Document) : Document := ⟨Block.clearAll d.children⟩

theorem children_clearTitles : d.clearTitles.children = d.children.map Block.clearTitles :=
  Block.clearAll_eq_map d.children

theorem frontmatter_clearTitles : d.clearTitles.frontmatter =
    { d.frontmatter with title := d.frontmatter.title.filter (· ≠ "") } := by
  rw [frontmatter, frontmatter, children_clearTitles, List.findSome?_map,
    funext (f := _ ∘ _) Block.frontmatter?_clearTitles]
  have hmap := List.map_findSome? (f := Block.frontmatter?) (l := d.children)
    (g := fun f : Frontmatter => { f with title := f.title.filter (· ≠ "") })
  refine (congrArg (·.getD {}) hmap.symm).trans ?_
  cases d.children.findSome? Block.frontmatter? <;> rfl

theorem sameUrls_clearTitles :
    (References.ofBlocks d.clearTitles.children).SameUrls (.ofBlocks d.children) := by
  intro id
  rw [References.url?, References.url?, References.links_ofBlocks, References.links_ofBlocks,
    children_clearTitles, List.filterMap_map, funext (f := _ ∘ _) Block.linkEntry?_clearTitles]

theorem leadingTitle?_clearTitles (h : refs.SameUrls refs') :
    d.clearTitles.leadingTitle? refs = d.leadingTitle? refs' := by
  have hpreamble : Block.isPreamble ∘ Block.clearTitles = Block.isPreamble :=
    funext Block.isPreamble_clearTitles
  rw [leadingTitle?, leadingTitle?, children_clearTitles, List.dropWhile_map, List.takeWhile_map,
    hpreamble, List.length_map]
  cases d.children.dropWhile Block.isPreamble with
  | nil => rfl
  | cons b bs => simp only [List.map_cons, Block.titleText?_clearTitles, titleText?_of_sameUrls h]

/-! ## The heading that opens a document -/

/-- A title that is empty keeps the heading that opens a document from giving one. -/
structure HidesTitle (d : Document) (o : Options) (refs : References) (i : Nat) (text : String) :
    Prop where
  ungiven : o.title = none
  empty : d.WritesTitle ""
  opens : d.Opens refs i text

/-- Without the empty title, the heading gives the title and is left out of the body. -/
theorem HidesTitle.resolve_clearTitles (h : d.HidesTitle o refs' i text)
    (hu : refs.SameUrls refs') :
    Metadata.resolve d.clearTitles o refs =
      { Metadata.resolve d o refs' with title := text, excluded := some i } ∧
    (Metadata.resolve d o refs').title = "" ∧ (Metadata.resolve d o refs').excluded = none := by
  have hleading := leadingTitle?_eq_some_iff.2 h.opens
  have hblank : Text.trimBlanks text ≠ Text.trimBlanks "" := by
    rw [h.opens.trimBlanks_text]
    exact h.opens.text_ne
  have hempty := frontmatter_title_eq_some_iff.2 h.empty
  simp [Metadata.resolve, frontmatter_clearTitles, leadingTitle?_clearTitles hu, hleading,
    h.ungiven, hempty, hblank, Option.filter_some]

theorem resolve_clearTitles (h : ∀ i text, ¬ d.HidesTitle o refs' i text)
    (hu : refs.SameUrls refs') :
    Metadata.resolve d.clearTitles o refs = Metadata.resolve d o refs' := by
  have htitle : ((o.title.or (d.frontmatter.title.filter (· ≠ ""))).or
      ((d.leadingTitle? refs').map (·.text))).getD "" =
      ((o.title.or d.frontmatter.title).or ((d.leadingTitle? refs').map (·.text))).getD "" := by
    cases ho : o.title with
    | some title => rfl
    | none =>
      cases hf : d.frontmatter.title with
      | none => rfl
      | some title =>
        by_cases hempty : title = ""
        · subst hempty
          have hleading : d.leadingTitle? refs' = none :=
            Option.eq_none_iff_forall_ne_some.2 fun l hl =>
              h l.index l.text ⟨ho, frontmatter_title_eq_some_iff.1 hf,
                leadingTitle?_eq_some_iff.1 hl⟩
          rw [hleading]
          rfl
        · simp [Option.filter_some, hempty]
  simp only [Metadata.resolve, frontmatter_clearTitles, leadingTitle?_clearTitles hu, htitle]

/-- **Empty titles count for nothing but where they are all the title there is.** A block reads the
same without its empty titles, unless its title is then empty and no longer unset, that is where a
line writes something for the title and no line a value. A document comes to the same metadata
without them, unless no title is given, that of its block is empty and a heading opens the document.
Then the title is empty and the heading stays, where without them it is the title and left out. -/
theorem resolve_clearTitles_iff (d : Document) (o : Options) :
    (∀ raw, Frontmatter.read (Frontmatter.clearTitles raw) =
      { Frontmatter.read raw with title := (Frontmatter.read raw).title.filter (· ≠ "") }) ∧
    (∀ raw, Frontmatter.read (Frontmatter.clearTitles raw) ≠ Frontmatter.read raw ↔
      (∃ line ∈ Frontmatter.linesOf raw, ∃ rest, Frontmatter.HasKey line "title" rest ∧ rest ≠ []) ∧
        ∀ line ∈ Frontmatter.linesOf raw, ∀ value,
          Frontmatter.Writes ["title"] line value → value = "") ∧
    (Metadata.resolve d.clearTitles o (.ofBlocks d.clearTitles.children) =
      Metadata.resolve d o (.ofBlocks d.children) ↔
        ∀ i text, ¬ d.HidesTitle o (.ofBlocks d.children) i text) ∧
    ∀ i text, d.HidesTitle o (.ofBlocks d.children) i text →
      Metadata.resolve d.clearTitles o (.ofBlocks d.clearTitles.children) =
        { Metadata.resolve d o (.ofBlocks d.children) with title := text, excluded := some i } ∧
      (Metadata.resolve d o (.ofBlocks d.children)).title = "" ∧
      (Metadata.resolve d o (.ofBlocks d.children)).excluded = none := by
  have hhidden := fun i text (h : d.HidesTitle o (.ofBlocks d.children) i text) =>
    h.resolve_clearTitles sameUrls_clearTitles
  refine ⟨Frontmatter.read_clearTitles, fun raw => ?_,
    ⟨fun heq i text h => ?_, fun h => ?_⟩, hhidden⟩
  · rw [← Frontmatter.title_eq_empty_iff, Frontmatter.read_clearTitles_ne_iff]
  · obtain ⟨hcleared, htitle, -⟩ := hhidden i text h
    have hsame := congrArg Metadata.title (hcleared.symm.trans heq)
    exact h.opens.text_ne (hsame.trans htitle)
  · exact resolve_clearTitles h sameUrls_clearTitles

/-- A title in quotes that hold nothing, and a heading. -/
def unnamed : Document := ⟨[.frontmatter "title: ''", .heading 1 [.text "T"]]⟩

/-- An empty title is a title. -/
theorem unnamed_clearTitles_ne :
    Metadata.resolve unnamed.clearTitles {} (.ofBlocks unnamed.clearTitles.children) ≠
      Metadata.resolve unnamed {} (.ofBlocks unnamed.children) := by
  intro heq
  have hcleared : (Metadata.resolve unnamed.clearTitles {}
      (.ofBlocks unnamed.clearTitles.children)).title = "T" := by decide +kernel
  have hempty : (Metadata.resolve unnamed {} (.ofBlocks unnamed.children)).title = "" := by
    decide +kernel
  rw [heq, hempty] at hcleared
  exact absurd hcleared (by decide)

end Document

end Typeset
