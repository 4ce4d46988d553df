/-
Block structure, read line by line.

A line first meets the containers that are open, then opens new ones, and what
is left of it goes on with the open leaf block or starts another. A line that
misses a container still belongs to it when it goes on with a paragraph there.
The result holds its text as passages that are still to be read.
-/
import Typeset.Markdown.Container
import Typeset.Markdown.Definition
import Typeset.Markdown.Items
import Typeset.Markdown.Start
import Typeset.Markdown.Blocks.Leaf

namespace Typeset.Markdown.Blocks

/-- An open container with what it holds, the last one first. -/
structure Frame where
  container : Container
  /-- Whether it touches what is in front of it. -/
  touches : Bool
  children : List (Sibling Passage)

/-- What has been read of a source, and what is open behind its last line. -/
structure Reader where
  dialect : Dialect
  /-- Whether containers are recognized. -/
  containers : Bool
  /-- What stands outside all containers, the last one first. -/
  root : List (Sibling Passage)
  /-- Open containers, the innermost first. -/
  frames : List Frame := []
  leaf : OpenLeaf := .closed
  /-- Whether what starts now interrupts a paragraph. The line behind one that has closed containers
  interrupts nothing. -/
  interrupts : Bool := false
  /-- Whether the last line missed a container. -/
  lazy : Bool := false
  /-- Whether a row that turned out to be no header has left an open cell behind. The next header
  that starts with a pipe counts it too, and the next tag passes for a closing one. -/
  openCell : Bool := false
  /-- Lines that a construct has given back, to be read once more. The first of them is text. -/
  back : List Rest := []
  /-- The number of the next line. -/
  number : Nat := 1
  /-- The first fault in the structure of the lines. -/
  fault : Option Fault := none

namespace Reader

/-! ## Blocks that are done -/

def addSibling (r : Reader) (s : Sibling Passage) : Reader :=
  match r.frames with
  | [] => { r with root := s :: r.root }
  | f :: fs => { r with frames := { f with children := s :: f.children } :: fs }

/-- Adds a block to the innermost container. -/
def add (r : Reader) (b : Flow Passage) : Reader := r.addSibling (.block b)

def addAll (r : Reader) (bs : List (Flow Passage)) : Reader := bs.foldl add r

/-- What a container becomes. -/
def closeFrame (f : Frame) : Sibling Passage :=
  let children := Sibling.gather f.children.reverse
  match f.container with
  | .quote => .block (.quote children)
  | .item delimiter _ _ => .item delimiter f.touches children
  | .note label => .block (.footnoteDefinition (Label.identifier label) children)

/-- Closes the innermost container. -/
def closeInnermost (r : Reader) : Reader :=
  match r.frames with
  | [] => r
  | f :: fs => { r with frames := fs }.addSibling (closeFrame f)

/-- Closes the innermost containers until `n` are left. -/
def closeTo (r : Reader) (n : Nat) : Reader :=
  (r.frames.length - n).repeat closeInnermost r

/-- The definitions at the start of a passage and what is left of it. -/
def splitDefinitions (p : Passage) : List (Flow Passage) × Passage :=
  let (definitions, left) := Definition.readAll 0 p.chars
  (definitions.map fun d =>
      .definition (Label.identifier (p.source d.position d.label)) d.url,
    p.drop left)

/-- The blocks of a paragraph's lines, in order: definitions, and the passage behind them. A held
underline starts the passage, or is a paragraph of its own in front of definitions. -/
def settleText (held : Option TextLine) (lines : List TextLine) :
    List (Flow Passage) × Passage :=
  let (definitions, rest) := splitDefinitions (TextLine.join lines)
  match held with
  | none => (definitions, rest)
  | some l =>
    if definitions.isEmpty then ([], TextLine.join (l :: lines))
    else (.paragraph (TextLine.join [l]) :: definitions, rest)

/-- Closes a leaf. `closed` tells that the ending of a fence's last line belongs to it. -/
def closeLeaf (r : Reader) (closed : Bool) : OpenLeaf → Reader
  | .closed => r
  | .text held lines _ =>
    let (blocks, rest) := settleText held lines.reverse
    let done := r.addAll blocks
    if rest.chars.isEmpty then done else done.add (.paragraph rest)
  | .underlined held =>
    match held with
    | some l => r.add (.paragraph (TextLine.join [l]))
    | none => r
  | .fence f lines =>
    let value := String.ofList (trimEnding (trimStart (joinLines closed lines)))
    r.add (if f.marker == '$' then .math value else .code f.lang value)
  | .indented lines _ =>
    r.add (.code none (String.ofList (trimEnding (joinLines false lines))))
  | .html _ => r.add .html
  | .program above lines =>
    (closeLeaf r closed above).add
      (.program (TextLine.joinAll (lines.reverse.map Rest.textLine)))
  | .table align rows => r.add (.table align rows.reverse)

/-- Closes the open leaf. -/
def finishLeaf (r : Reader) (closed : Bool) : Reader :=
  { r with leaf := .closed }.closeLeaf closed r.leaf

/-! ## Starting and going on -/

/-- Goes on with text, or starts it. A held underline starts it only if no margin stands between the
two. -/
def addText (r : Reader) (l : Rest) (header : Option Nat) : Reader :=
  let leaf (r : Reader) : Reader :=
    match r.leaf with
    | .text held lines _ => { r with leaf := .text held (l.textLine :: lines) header }
    | .underlined (some above) =>
      if l.margin.chars.isEmpty then { r with leaf := .text (some above) [l.textLine] header }
      else
        let done := r.add (.paragraph (TextLine.join [above]))
        { done with leaf := .text none [l.textLine] header }
    | _ => { r.finishLeaf false with leaf := .text none [l.textLine] header }
  { leaf r with interrupts := true }

/-- Goes on with a line that may be a row: of the table that is open, or the header of one. -/
def addRow (r : Reader) (l : Rest) : Reader :=
  let row := l.cursor.text
  if !r.dialect.table then r.addText l none
  else match r.leaf with
    | .table align rows => { r with leaf := .table align (Table.cells row :: rows) }
    | _ =>
      if Table.canBeHeader row && !l.ending.isEmpty then
        let count := (Table.cells row).length + if r.openCell && Table.isPiped row then 1 else 0
        { r with openCell := Table.endsOpen row }.addText l (some count)
      else { r with openCell := false }.addText l none

/-- Makes a heading of the text above an underline. An underline with nothing but definitions above
it is held. -/
def addUnderline (r : Reader) (l : Rest) (depth : UInt8) : Reader :=
  let r := { r with interrupts := false }
  let heading (p : Passage) : Flow Passage :=
    .heading depth true { p with blockStop := some l.textLine.stop }
  match r.leaf with
  | .text held lines _ =>
    let (blocks, rest) := settleText held lines.reverse
    let r := r.addAll blocks
    if rest.chars.isEmpty then { r with leaf := .underlined (some l.textLine) }
    else { r.add (heading rest) with leaf := .underlined none }
  | .underlined (some above) =>
    { r.add (heading (TextLine.join [above])) with leaf := .underlined none }
  | _ => { r.finishLeaf false with leaf := .underlined (some l.textLine) }

/-- Goes on with the lines of an embedded program, the last one first. Lines that turn out to be
text are given back. -/
def addProgram (r : Reader) (above : OpenLeaf) (lines : List Rest) (l : Rest) : Reader :=
  let lines := l :: lines
  let passage := TextLine.join (lines.reverse.map Rest.textLine)
  match Program.scanFlow (passage.chars.dropWhile isSpacing) with
  | .whole => { r with leaf := .closed }.closeLeaf false above |>.add (.program passage)
  | .more _ => { r with leaf := .program above lines }
  | .text => { r with leaf := above, back := lines.reverse }

/-- Notes the fault of a line in an embedded program that lacks the marks of its containers. -/
def failLazy (r : Reader) (lines : List Rest) (l : Rest) : Reader :=
  let passage := TextLine.joinAll (lines.reverse.map Rest.textLine)
  match Program.scanFlow (passage.chars.dropWhile isSpacing) with
  | .more place =>
    let fault := Program.lazyFault place l.textLine.origin
    { r with fault := r.fault.or (some fault) }
  | .text | .whole => r

/-- Starts what a line starts. -/
def start (r : Reader) (l : Rest) (s : Start) : Reader :=
  let done := { r.finishLeaf false with interrupts := false }
  match s with
  | .blank => done
  | .indented content => { done with leaf := .indented [(content, l.ending)] [] }
  | .fence f => { done with leaf := .fence f [([], l.ending)] }
  | .html kind rest => if kind.endsIn rest then done.add .html else { done with leaf := .html kind }
  | .heading depth content left => done.add (.heading depth false (l.passage content left))
  | .program => r.addProgram r.leaf [] l
  | .underline depth => r.addUnderline l depth
  | .thematicBreak => done.add .thematicBreak
  | .row => r.addRow l
  | .text => r.addText l none

/-- The table that the row of dashes at the cursor makes of the header above it. -/
def startTable? (r : Reader) (l : Rest) : Option Reader :=
  match r.leaf with
  | .text held (head :: lines) (some count) => do
    let c ← r.dialect.unindent? l.cursor
    let align ← Table.alignments? c.rest
    if align.length != count then none
    else
      let above : OpenLeaf := if lines.isEmpty then .underlined held else .text held lines none
      return { { r with leaf := above }.finishLeaf false with
        leaf := .table align [Table.cells head.text]
        interrupts := false
        openCell := false }
  | _ => none

/-- Goes on with the open leaf, if the line belongs to it. -/
def continueLeaf? (r : Reader) (l : Rest) : Option Reader :=
  match r.leaf with
  | .fence f lines =>
    let closes := match r.dialect.unindent? l.cursor with
      | some c => Leaf.closesFence f c.rest
      | none => false
    if closes then some (r.finishLeaf true)
    else
      let text := (l.cursor.skip f.indent).2.text
      some { r with leaf := .fence f ((text, l.ending) :: lines) }
  | .html kind =>
    if kind.endsAtBlank then
      if l.cursor.isBlank then some (r.finishLeaf false) else some r
    else if kind.endsIn l.cursor.text then some (r.finishLeaf false)
    else some r
  | .indented lines blanks =>
    match l.cursor.skipExactly? 4 with
    | some c => some { r with leaf := .indented ((c.text, l.ending) :: (blanks ++ lines)) [] }
    | none =>
      if l.cursor.isBlank then
        some { r with leaf := .indented lines (([], l.ending) :: blanks) }
      else none
  | .program above lines => some (r.addProgram above lines l)
  | .text _ _ _ => r.startTable? l
  | .table _ _ | .underlined _ | .closed => none

/-! ## Lines -/

/-- The last line is text and no header. -/
def dropHeader (r : Reader) : Reader :=
  match r.leaf with
  | .text held lines (some _) =>
    { r with leaf := .text held lines none, interrupts := true, openCell := r.lazy && r.openCell }
  | _ => r

/-- Ends code by indentation, which has no second line where its first one opens or misses a
container. -/
def endIndented (r : Reader) : Reader :=
  match r.leaf with
  | .indented _ _ => r.finishLeaf false
  | _ => r

/-- What the line starts at a place where the outermost containers stand. -/
def startOf (r : Reader) (l : Rest) : Start :=
  let s := Start.of r.dialect
    { interrupts := r.interrupts, lazy := r.lazy
      underlines := !r.lazy && r.leaf.acceptsLazy, closing := r.openCell }
    l.cursor
  if r.lazy && r.leaf.isTable && s.isText then .text else s

/-- Reads the rest of a line on which the outermost `kept` containers stand. `pierced` tells that
the last of them is new. -/
def readRest (r : Reader) (pierced : Bool) (kept : Nat) (l : Rest) : Reader :=
  let r := { r with lazy := kept < r.frames.length }
  match if r.lazy then none else r.continueLeaf? l with
  | some r => r
  | none =>
    let r := r.dropHeader
    let s := r.startOf l
    let stays := s.isText && r.leaf.acceptsLazy
      && !(l.ending.isEmpty && Start.breaksOff r.dialect r.openCell l.cursor)
    let r := if Start.meetsTag r.dialect l.cursor then { r with openCell := false } else r
    let r :=
      if !r.lazy || stays then r.start l s
      else match r.leaf with
        | .program _ lines => r.failLazy lines l
        | _ => { ((r.finishLeaf false).closeTo kept).start l s with interrupts := false }
    if r.lazy || pierced then r.endIndented else r

/-- Reads the lines that were given back. `fuel` bounds the number of readings. -/
def readBack (fuel : Nat) (r : Reader) : Reader :=
  match fuel, r.back with
  | _, [] | 0, _ => r
  | fuel + 1, first :: rest => go fuel (({ r with back := [] }).addText first none) rest
where
  /-- Reads lines, and those that they give back in front of what is left. -/
  go (fuel : Nat) (r : Reader) (lines : List Rest) : Reader :=
    match fuel, lines with
    | _, [] | 0, _ => r
    | fuel + 1, l :: rest =>
      let r := r.readRest false r.frames.length l
      match r.back with
      | [] => go fuel r rest
      | first :: back => go fuel ({ r with back := [] }.addText first none) (back ++ rest)

/-- Makes text of an embedded program that the end of its container or of the source leaves
unfinished. -/
def flush (fuel : Nat) (r : Reader) : Reader :=
  match fuel, r.leaf with
  | fuel + 1, .program above lines =>
    let passage := TextLine.join (lines.reverse.map Rest.textLine)
    if Program.breaksOff (passage.chars.dropWhile isSpacing) then
      let count := lines.length + 1
      flush fuel ({ r with leaf := above, back := lines.reverse }.readBack (count * count))
    else r
  | _, _ => r

/-- Closes the open leaf and the innermost containers for a new container. -/
def makeRoom (r : Reader) (kept : Nat) : Reader :=
  let r := r.flush (r.number + 1)
  let openCell := r.openCell && (r.lazy || !r.leaf.hasHeader)
  { (r.finishLeaf (!r.lazy)).closeTo kept with interrupts := false, openCell }

/-- The rest of a line behind what its containers take of it. -/
def restOf (r : Reader) (l : Line) (c : Cursor) : Rest where
  number := r.number
  margin :=
    { chars := l.mark ++ l.text.take (l.text.length - c.text.length)
      insideTab := c.insideTab }
  cursor := c
  ending := l.ending

/-- Opens the containers that start at the cursor, at most `limit`, and reads the rest. `pierced`
tells that one has been opened, and `dropped` that it has kept a header from its table. -/
def readNew (r : Reader) (limit : Nat) (pierced dropped : Bool) (kept : Nat) (l : Line)
    (c : Cursor) : Reader :=
  let all := kept == r.frames.length
  let rest (r : Reader) : Reader :=
    { r with interrupts := r.interrupts || dropped }.readRest pierced kept (r.restOf l c)
  match limit with
  | 0 => rest r
  | limit + 1 =>
    if !r.containers || (all && r.leaf.takesAll) then rest r
    else match Container.start? r.dialect (all && r.interrupts) l.endsInPair c with
      | none => rest r
      | some (container, after) =>
        let touches := kept == 0 && !all && r.leaf.takesEnding && !r.lazy
        let opened := if all then r.finishLeaf false else r.makeRoom kept
        readNew { opened with frames := ⟨container, touches, []⟩ :: opened.frames } limit true
          (dropped || (all && r.leaf.hasHeader)) (kept + 1) l after

/-- The containers, outermost first, that stand on a line, with the cursor behind them. -/
def keep (dialect : Dialect) : List Frame → Cursor → List Frame × List Frame × Cursor
  | [], c => ([], [], c)
  | f :: fs, c =>
    match Container.continue? dialect f.container c with
    | some (container, after) =>
      let (kept, missing, c) := keep dialect fs after
      ({ f with container } :: kept, missing, c)
    | none => ([], f :: fs, c)

/-- Reads one line. -/
def readLine (r : Reader) (l : Line) : Reader :=
  let (kept, missing, c) :=
    keep r.dialect r.frames.reverse { column := byteLength l.mark, rest := l.text }
  let r := { r with frames := (kept ++ missing).reverse }
  let r := r.readNew l.text.length false false kept.length l c
  let count := r.back.length + 1
  { r.readBack (count * count) with number := r.number + 1 }

/-- Closes everything at the end of the source. -/
def finish (r : Reader) : Except Fault (List (Flow Passage)) :=
  match r.fault with
  | some fault => .error fault
  | none =>
    let r := r.flush (r.number + 1)
    .ok (Sibling.gather ((r.finishLeaf true).closeTo 0).root.reverse)

end Reader

end Typeset.Markdown.Blocks
