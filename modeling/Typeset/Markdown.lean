/-
Reading a Markdown source.

Blocks come first. References exist only where a definition exists anywhere in
the source, so the definitions are gathered before any passage is read as
phrases. The box of a task item is taken off the first paragraph of its item.
-/
import Typeset.Markdown.Balance
import Typeset.Markdown.Blocks
import Typeset.Markdown.Element
import Typeset.Markdown.Phrasing

namespace Typeset.Markdown

namespace Definitions

instance : Append Definitions where
  append a b := ⟨a.links ++ b.links, a.notes ++ b.notes⟩

mutual

/-- The definitions that a block holds. -/
def ofFlow {α : Type} : Flow α → Definitions
  | .definition identifier _ => ⟨[identifier], []⟩
  | .footnoteDefinition identifier children => ⟨[], [identifier]⟩ ++ ofFlows children
  | .quote children | .hidden children => ofFlows children
  | .list _ items => ofItems items
  | .yaml _ | .toml _ | .heading _ _ _ | .paragraph _ | .code _ _ | .thematicBreak | .table _ _
  | .math _ | .html | .program _ => ⟨[], []⟩

def ofFlows {α : Type} : List (Flow α) → Definitions
  | [] => ⟨[], []⟩
  | b :: bs => ofFlow b ++ ofFlows bs

def ofItems {α : Type} : List (List (Flow α)) → Definitions
  | [] => ⟨[], []⟩
  | bs :: rest => ofFlows bs ++ ofItems rest

end

end Definitions

/-! ## Task items -/

/-- What follows a bracket pair around white space or the letter x. -/
def afterBox? : List Char → Option (List Char)
  | '[' :: c :: ']' :: cs =>
    if c == 'x' || c == 'X' || isSpacing c || isEnding c then some cs else none
  | '[' :: '\r' :: '\n' :: ']' :: cs => some cs
  | _ => none

/-- Whether a tab inside a box is wider than one column, or a line inside it starts inside a tab. -/
def isBoxTorn (p : Passage) (length : Nat) : Bool :=
  p.insideTab || p.startsInsideTab (length - 1)
    || (p.chars[1]? == some '\t' && (p.locate 1).column % 4 != 0)

/-- The length of the box of a task item at the start of a passage. White space follows it, and
something else follows that. -/
def boxLength (p : Passage) : Nat :=
  match afterBox? p.chars with
  | none => 0
  | some rest =>
    let length := p.chars.length - rest.length
    let text := Link.skipSpacing rest
    if isBoxTorn p length || text.isEmpty
        || (text.length == rest.length && (splitEnding? rest).isNone) then 0
    else length

/-- Phrases behind a box, without the white space character or the line ending between. -/
def dropGap : List Phrase → List Phrase
  | .text value :: ps =>
    let cs := value.toList
    let rest := match splitEnding? cs with
      | some (_, rest) => rest
      | none => if cs.head?.any isSpacing then cs.tail else cs
    if rest.isEmpty then ps else .text (String.ofList rest) :: ps
  | ps => ps

/-! ## Phrases in blocks -/

/-- Where a passage stands. -/
inductive Place where
  | block
  | cell
  /-- The first paragraph of a list item, which `leads` if no definition stands before it. -/
  | item (leads : Bool)

/-- How the passages of a source are read. -/
abbrev PassageReader := Place → Passage → List Phrase

mutual

/-- A block with its passages read; `place` is that of a paragraph. -/
def Flow.readWith (read : PassageReader) (place : Place) : Flow Passage → Flow (List Phrase)
  | .yaml value => .yaml value
  | .toml value => .toml value
  | .definition identifier url => .definition identifier url
  | .footnoteDefinition identifier children =>
    .footnoteDefinition identifier (Flow.readAllWith read children)
  | .heading depth underlined content => .heading depth underlined (read .block content)
  | .paragraph content => .paragraph (read place content)
  | .list delimiter items => .list delimiter (Flow.readItemsWith read items)
  | .code lang value => .code lang value
  | .quote children => .quote (Flow.readAllWith read children)
  | .thematicBreak => .thematicBreak
  | .table align rows => .table align (rows.map fun row => row.map (read .cell))
  | .math value => .math value
  | .html => .html
  | .program content => .program (read .block content)
  | .hidden children => .hidden (Flow.readAllWith read children)

def Flow.readAllWith (read : PassageReader) : List (Flow Passage) → List (Flow (List Phrase))
  | [] => []
  | b :: bs => b.readWith read .block :: Flow.readAllWith read bs

/-- The blocks of an item: only definitions may stand before its first paragraph. -/
def Flow.readItemWith (read : PassageReader) (leads : Bool) :
    List (Flow Passage) → List (Flow (List Phrase))
  | [] => []
  | .definition identifier url :: bs =>
    .definition identifier url :: Flow.readItemWith read false bs
  | b :: bs => b.readWith read (.item leads) :: Flow.readAllWith read bs

def Flow.readItemsWith (read : PassageReader) :
    List (List (Flow Passage)) → List (List (Flow (List Phrase)))
  | [] => []
  | bs :: rest => Flow.readItemWith read true bs :: Flow.readItemsWith read rest

end

/-- The phrases of a passage in its place. -/
def readPassage (dialect : Dialect) (definitions : Definitions) (place : Place) (p : Passage) :
    List Phrase :=
  match place with
  | .block => Phrasing.read dialect definitions false 0 p
  | .cell => Phrasing.read dialect definitions true 0 p
  | .item leads =>
    let length := if dialect.taskItem then boxLength p else 0
    let phrases := Phrasing.read dialect definitions false length p
    if leads && length != 0 then dropGap phrases else phrases

/-! ## Faults of embedded programs -/

mutual

/-- The passages of a block, each with whether it is a program of its own. -/
def Flow.passages {α : Type} : Flow α → List (Bool × α)
  | .heading _ _ content => [(false, content)]
  | .paragraph content => [(false, content)]
  | .program content => [(true, content)]
  | .footnoteDefinition _ children => Flow.passagesOf children
  | .quote children | .hidden children => Flow.passagesOf children
  | .list _ items => Flow.itemPassages items
  | .table _ rows => rows.flatten.map ((false, ·))
  | .yaml _ | .toml _ | .definition _ _ | .code _ _ | .thematicBreak | .math _ | .html => []

def Flow.passagesOf {α : Type} : List (Flow α) → List (Bool × α)
  | [] => []
  | b :: bs => b.passages ++ Flow.passagesOf bs

def Flow.itemPassages {α : Type} : List (List (Flow α)) → List (Bool × α)
  | [] => []
  | bs :: rest => Flow.passagesOf bs ++ Flow.itemPassages rest

end

/-- The fault of an embedded program: where a construct breaks off, first among those that stand
alone and then in text, or the first tag that does not match. -/
def checkPrograms (dialect : Dialect) (definitions : Definitions) (stop : Location)
    (blocks : List (Flow Passage)) : Except Fault Unit :=
  let passages := Flow.passagesOf blocks
  let ordered := passages.filter (·.1) ++ passages.filter (!·.1)
  match ordered.findSome? fun p => Phrasing.fault? dialect definitions p.2 with
  | some fault => .error fault
  | none => Balance.check (readPassage dialect definitions .block) stop blocks

/-- The blocks of a source. Only embedded programs can be at fault. -/
def read (dialect : Dialect) (source : String) : Except Fault (List (Flow (List Phrase))) := do
  let blocks ← Blocks.read dialect source.toList
  let definitions := Definitions.ofFlows blocks
  let tree := Flow.readAllWith (readPassage dialect definitions) blocks
  if dialect.expression then
    checkPrograms dialect definitions (Location.after default source.toList) blocks
    return Flow.pruneAll 0 tree
  else return tree

end Typeset.Markdown
