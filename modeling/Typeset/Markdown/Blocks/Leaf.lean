/-
The leaf block that is open between two lines.

A leaf keeps the lines that it has taken. What becomes of them is settled when
it closes, because a later line may still make a heading or a table of text.
-/
import Typeset.Markdown.Leaf
import Typeset.Markdown.Program
import Typeset.Markdown.RawHtml
import Typeset.Markdown.Table
import Typeset.Markdown.TextLine

namespace Typeset.Markdown.Blocks

/-- A line behind its containers, with its number and the margin that they took. -/
structure Rest where
  number : Nat
  margin : Margin
  cursor : Cursor
  ending : List Char

namespace Rest

def textLine (l : Rest) : TextLine := ⟨l.number, l.margin, l.cursor.text, l.ending⟩

/-- The part of the line in front of its last characters. -/
def upTo (l : Rest) (left : List Char) : List Char :=
  l.cursor.text.take (l.cursor.text.length - left.length)

/-- The passage of a heading that `left` starts and that goes on to the end of the line. -/
def passage (l : Rest) (content left : List Char) : Passage where
  chars := content
  origin := l.textLine.origin.after (l.upTo left)
  before := (l.upTo left).getLast?
  blockStop := some l.textLine.stop

end Rest

/-- The leaf block that the next line may go on with. Lines are kept last one first. -/
inductive OpenLeaf where
  | closed
  /-- Text of a paragraph, with an underline that had nothing above it and may start the text.
  `header` counts the cells of the last line if it may be the header of a table. -/
  | text (held : Option TextLine) (lines : List TextLine) (header : Option Nat)
  /-- The line after an underline; `held` is the underline if it had nothing above it. -/
  | underlined (held : Option TextLine)
  /-- A fence with its lines. Of the first one, which holds the markers, only the ending counts. -/
  | fence (fence : Fence) (lines : List (List Char × List Char))
  /-- Code by indentation, with the blank lines after its last line. -/
  | indented (lines : List (List Char × List Char)) (blanks : List (List Char × List Char))
  | html (kind : RawHtml.Kind)
  /-- Lines of an embedded program whose last construct goes on, and the leaf block above them,
  which they go on with if they turn out to be text. -/
  | program (above : OpenLeaf) (lines : List Rest)
  | table (align : List (Option Align)) (rows : List (List Passage))

/-- A text without the line ending at its end. -/
def trimEnding (cs : List Char) : List Char :=
  match cs.reverse with
  | '\n' :: '\r' :: rest | '\n' :: rest | '\r' :: rest => rest.reverse
  | _ => cs

/-- A text without the line ending at its start. -/
def trimStart (cs : List Char) : List Char :=
  match splitEnding? cs with
  | some (_, rest) => rest
  | none => cs

/-- Lines, last one first, joined with their endings. The last ending stands if `closed`. -/
def joinLines (closed : Bool) (lines : List (List Char × List Char)) : List Char :=
  match lines with
  | [] => []
  | (text, ending) :: earlier =>
    earlier.foldl (fun rest (t, e) => t ++ e ++ rest) (text ++ if closed then ending else [])

namespace OpenLeaf

/-- Whether the leaf takes its lines whatever they start with. -/
def takesAll : OpenLeaf → Bool
  | .fence _ _ | .html _ | .program _ _ => true
  | _ => false

/-- Whether the leaf has taken the ending of its last line. -/
def takesEnding : OpenLeaf → Bool
  | .fence _ _ => true
  | .html kind => !kind.endsAtBlank
  | _ => false

/-- Whether a line without its containers may go on with the leaf. -/
def acceptsLazy : OpenLeaf → Bool
  | .text _ _ _ | .underlined _ => true
  | _ => false

def isTable : OpenLeaf → Bool
  | .table _ _ => true
  | _ => false

/-- Whether the last line may be the header of a table. -/
def hasHeader : OpenLeaf → Bool
  | .text _ _ header => header.isSome
  | _ => false

end OpenLeaf

end Typeset.Markdown.Blocks
