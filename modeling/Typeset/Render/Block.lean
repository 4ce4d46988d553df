/-
Blocks as Typst markup.

Every block is rendered at an indentation level. Definitions and metadata
render to nothing. A list item keeps its first paragraph on the line of its
marker and puts its other blocks one level deeper.
-/
import Typeset.Render.Inline

namespace Typeset

namespace Markup

/-- The directive that stands for a paragraph with the mark of an outline. -/
def outline : String := "#outline(title: auto, indent: auto)"

def thematicBreak : String := "#line(length: 100%, stroke: 0.6pt)"

/-- The number of marks in front of a heading. -/
def headingLevel (depth : UInt8) : Nat := min (max depth.toNat 1) 6

/-- The marker of list items. -/
def marker (ordered : Bool) : String := if ordered then "+" else "-"

/-- A list item: its marker, the text behind that and the lines below. -/
def item (marker : String) (level : Nat) (text : Option String) (lines : List String) : String :=
  let opening := Text.replicate (2 * level) ' ' ++ marker
  Text.joinWith "\n" ((match text with
    | some text => opening ++ " " ++ text
    | none => opening) :: lines)

/-- The length of the longest run of back quotes, given the lengths of the run that ends here and
of the longest run so far. -/
def longestRun (run longest : Nat) : List Char → Nat
  | [] => longest
  | c :: cs =>
    if c == '\x60' then longestRun (run + 1) (max longest (run + 1)) cs
    else longestRun 0 longest cs

/-- A fence longer than every run of back quotes in the value. -/
def codeFence (value : String) : String :=
  Text.replicate (max (longestRun 0 0 value.toList + 1) 3) '\x60'

/-- A text without the line feed that ends it. -/
def dropFinalNewline (s : String) : String :=
  if s.toList.getLast? == some '\n' then String.ofList s.toList.dropLast else s

/-- A fenced block of code. -/
def codeBlock (lang : Option String) (value : String) (level : Nat) : String :=
  let value := dropFinalNewline value
  let fence := codeFence value
  Text.joinWith "\n"
    [Text.indent level (fence ++ Text.trimBlanks (lang.getD "")),
     Text.indent level value,
     Text.indent level fence]

/-- A formula of its own. The inner spaces make it a block. -/
def mathBlock (value : String) : String := "$ " ++ Text.trimBlanks value ++ " $"

/-- A quote around a body. -/
def quoteBlock (body : String) (level : Nat) : String :=
  let opening := Text.indent level "#quote["
  let closing := Text.indent level "]"
  if Text.isBlankText body then opening ++ "\n" ++ closing
  else Text.joinWith "\n" [opening, Text.indent (level + 1) body, closing]

/-- The name of a column's alignment. -/
def alignment : Option Align → String
  | some .right => "right"
  | some .center => "center"
  | some .left => "left"
  | none => "left"

/-- A table of columns and the cells in order. -/
def table (align : List (Option Align)) (columns : Nat) (cells : List String) : String :=
  let aligns := (List.range columns).map fun i => alignment (align[i]?.join)
  Text.joinWith "\n"
    ["#table(",
     "  columns: (" ++ Text.joinWith ", " (List.replicate columns "auto") ++ "),",
     "  align: (" ++ Text.joinWith ", " aligns ++ "),",
     "  " ++ Text.joinWith ", " cells,
     ")"]

end Markup

variable {m : Type → Type} [Monad m] [MonadWarn m]

/-- The markup of each run of inlines. -/
def Inline.renderEach (refs : References) (note : NoteExpander m) :
    List (List Inline) → m (List String)
  | [] => return []
  | cell :: cells => do
    let first ← Inline.renderAll refs note cell
    return first :: (← Inline.renderEach refs note cells)

/-- The markup of a paragraph. Text that reads `[toc]`, in any case, stands for the outline. -/
def Inline.renderParagraph (refs : References) (note : NoteExpander m) (children : List Inline) :
    m String :=
  if Text.lowercase (Text.trimBlanks (Inline.plainTexts refs children)) == "[toc]" then
    return Markup.outline
  else Inline.renderAll refs note children

/-- The markup of a table, whose first row is its header. -/
def renderTable (refs : References) (note : NoteExpander m) (align : List (Option Align))
    (rows : List (List (List Inline))) (level : Nat) : m (Option String) :=
  match rows with
  | [] => return none
  | header :: body => do
    let heads ← Inline.renderEach refs note header
    let cells ← Inline.renderEach refs note body.flatten
    let written := heads.map (fun s => "[*" ++ s ++ "*]") ++ cells.map (fun s => "[" ++ s ++ "]")
    return some (Text.indent level (Markup.table align header.length written))

mutual

/-- The markup of a block at an indentation level. -/
def Block.render (refs : References) (note : NoteExpander m) (level : Nat) :
    Block → m (Option String)
  | .frontmatter _ => return none
  | .linkDefinition _ _ => return none
  | .footnoteDefinition _ _ => return none
  | .heading depth children => do
    let content ← Inline.renderAll refs note children
    return some (Text.indent level
      (Text.replicate (Markup.headingLevel depth) '=' ++ " " ++ content))
  | .paragraph children => do
    return some (Text.indent level (← Inline.renderParagraph refs note children))
  | .list ordered items => do
    let lines ← Block.renderItems refs note (Markup.marker ordered) level items
    return some (Text.joinWith "\n" lines)
  | .codeBlock lang value => return some (Markup.codeBlock lang value level)
  | .blockquote children => do
    let parts ← Block.renderAll refs note 0 children
    return some (Markup.quoteBlock (Text.joinNonEmpty "\n\n" parts) level)
  | .thematicBreak => return some (Text.indent level Markup.thematicBreak)
  | .table align rows => renderTable refs note align rows level
  | .mathBlock value => return some (Text.indent level (Markup.mathBlock value))

/-- The markup of each block. -/
def Block.renderAll (refs : References) (note : NoteExpander m) (level : Nat) :
    List Block → m (List (Option String))
  | [] => return []
  | b :: bs => do
    let first ← b.render refs note level
    return first :: (← Block.renderAll refs note level bs)

/-- The markup of each list item. A paragraph that comes first stands behind the marker. -/
def Block.renderItems (refs : References) (note : NoteExpander m) (marker : String) (level : Nat) :
    List (List Block) → m (List String)
  | [] => return []
  | (.paragraph children :: rest) :: items => do
    let text ← Inline.renderParagraph refs note children
    let lines ← Block.renderTail refs note (level + 1) rest
    let others ← Block.renderItems refs note marker level items
    return Markup.item marker level (some text) lines :: others
  | blocks :: items => do
    let lines ← Block.renderTail refs note (level + 1) blocks
    let others ← Block.renderItems refs note marker level items
    return Markup.item marker level none lines :: others

/-- The lines under a list item's marker. A nested list keeps its line even if it is empty. -/
def Block.renderTail (refs : References) (note : NoteExpander m) (level : Nat) :
    List Block → m (List String)
  | [] => return []
  | .list ordered items :: rest => do
    let lines ← Block.renderItems refs note (Markup.marker ordered) level items
    return Text.joinWith "\n" lines :: (← Block.renderTail refs note level rest)
  | b :: rest => do
    let first ← b.render refs note level
    let others ← Block.renderTail refs note level rest
    return first.toList.filter (!·.isEmpty) ++ others

end

namespace Block

variable (refs : References) (note : NoteExpander m) (level : Nat)

/-- An item that does not open with a paragraph has a bare marker. -/
theorem renderItems_cons (marker : String) {item : List Block} (items : List (List Block))
    (h : ∀ children rest, item ≠ .paragraph children :: rest) :
    Block.renderItems refs note marker level (item :: items) = (do
      let lines ← Block.renderTail refs note (level + 1) item
      let others ← Block.renderItems refs note marker level items
      return Markup.item marker level none lines :: others) := by
  rw [Block.renderItems]
  exact h

theorem renderTail_cons {b : Block} (rest : List Block) (h : ∀ ordered items, b ≠ .list ordered items) :
    Block.renderTail refs note level (b :: rest) = (do
      let first ← b.render refs note level
      let others ← Block.renderTail refs note level rest
      return first.toList.filter (!·.isEmpty) ++ others) := by
  rw [Block.renderTail]
  exact h

end Block

end Typeset
