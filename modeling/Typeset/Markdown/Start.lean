/-
What a line starts.

Some characters start only one kind of block: a line that has one of them
where its containers end is that block or text, and no row of a table. All
other lines are tried as every kind of block in turn.
-/
import Typeset.Markdown.Leaf
import Typeset.Markdown.Program
import Typeset.Markdown.RawHtml

namespace Typeset.Markdown

/-- What a line starts where no open block takes it. -/
inductive Start where
  | blank
  | indented (content : List Char)
  | fence (fence : Fence)
  | html (kind : RawHtml.Kind) (rest : List Char)
  /-- A heading with what is left of its line from the content on. -/
  | heading (depth : UInt8) (content left : List Char)
  /-- Constructs of an embedded program. -/
  | program
  | underline (depth : UInt8)
  | thematicBreak
  /-- Text that may be a row of a table. -/
  | row
  /-- Text that is no row. -/
  | text

/-- Where a line stands. -/
structure Standing where
  /-- A paragraph goes on there. -/
  interrupts : Bool
  /-- A container is missing. -/
  lazy : Bool
  /-- An underline has text above it. -/
  underlines : Bool
  /-- All tags count as closing ones. -/
  closing : Bool

namespace Start

def isText : Start → Bool
  | .row | .text => true
  | _ => false

/-- The first of two starts that is more than text. -/
def orElse (first second : Start) : Start := if first.isText then second else first

instance : OrElse Start := ⟨fun first second => first.orElse (second ())⟩

def ofFence (dialect : Dialect) (indent : Nat) (cs : List Char) : Start :=
  match Leaf.fence? dialect indent cs with
  | some f => .fence f
  | none => .text

def ofHtml (dialect : Dialect) (standing : Standing) (cs : List Char) : Start :=
  let interrupts := standing.interrupts && !standing.lazy
  match if dialect.html then RawHtml.start? interrupts standing.closing cs else none with
  | some (kind, rest) => .html kind rest
  | none => .text

def ofHeading (cs : List Char) : Start :=
  match Leaf.heading? cs with
  | some (depth, content, left) => .heading depth content left
  | none => .text

def ofUnderline (standing : Standing) (cs : List Char) : Start :=
  match if standing.underlines then Leaf.underline? cs else none with
  | some depth => .underline depth
  | none => .text

def ofBreak (cs : List Char) : Start := if Leaf.isThematicBreak cs then .thematicBreak else .text

def ofProgram (dialect : Dialect) (cs : List Char) : Start :=
  if !dialect.expression then .text
  else match Program.scanFlow cs with
    | .text => .text
    | .whole | .more _ => .program

/-- What a line starts with a character that starts one kind of block only. -/
def ofMark? (dialect : Dialect) (standing : Standing) (cs : List Char) : Option Start :=
  match cs with
  | '#' :: _ => some (ofHeading cs)
  | '$' :: _ | '\x60' :: _ | '~' :: _ => some (ofFence dialect 0 cs)
  | '*' :: _ | '_' :: _ => some (ofBreak cs)
  | '<' :: _ => some (ofHtml dialect standing cs <|> ofProgram dialect cs <|> .row)
  | '\x7b' :: _ => some (ofProgram dialect cs)
  | 'e' :: _ | 'i' :: _ => some .text
  | _ => none

/-- What starts behind `indent` columns of white space. -/
def ofAny (dialect : Dialect) (standing : Standing) (indent : Nat) (cs : List Char) : Start :=
  ofFence dialect indent cs <|> ofHtml dialect standing cs <|> ofHeading cs
    <|> ofUnderline standing cs <|> ofBreak cs <|> ofProgram dialect cs <|> .row

/-- What starts at the cursor. -/
def of (dialect : Dialect) (standing : Standing) (c : Cursor) : Start :=
  match if c.insideTab then none else ofMark? dialect standing c.rest with
  | some s => s
  | none =>
    if c.isBlank then .blank
    else
      match dialect.unindent? c with
      | some start => ofAny dialect standing (c.span start) start.rest
      | none =>
        match standing.interrupts, c.skipExactly? 4 with
        | false, some after => .indented after.text
        | _, _ => .text

/-- Whether a line of text, read as the last one, breaks off before it is sure that it starts
nothing else. `closing` tells that all tags count as closing ones. -/
def breaksOff (dialect : Dialect) (closing : Bool) (c : Cursor) : Bool :=
  match dialect.unindent? c with
  | none => false
  | some start =>
    Leaf.breaksOff dialect start.rest || (dialect.html && RawHtml.breaksOff closing start.rest)
      || (dialect.expression && Program.breaksOff start.rest)

/-- Whether a tag is looked for at the cursor. -/
def meetsTag (dialect : Dialect) (c : Cursor) : Bool :=
  dialect.html && (dialect.unindent? c).any (RawHtml.startsTag ·.rest)

end Start

end Typeset.Markdown
