/-
Lines of text, and the passages that they make together.
-/
import Typeset.Markdown.Line

namespace Typeset.Markdown

/-- A line of text with its number, the margin of its containers and its ending. -/
structure TextLine where
  number : Nat
  margin : Margin
  text : List Char
  ending : List Char

namespace TextLine

/-- The characters of lines and the margins between them; the ending of the last line is no part of
them. `pos` is the position of the first line. -/
def joinFrom (pos : Nat) : List TextLine → List Char × List (Nat × Margin)
  | [] => ([], [])
  | [l] => (l.text, marginAt pos l)
  | l :: ls =>
    let (chars, margins) := joinFrom (pos + l.text.length + l.ending.length) ls
    (l.text ++ l.ending ++ chars, marginAt pos l ++ margins)
where
  /-- The margin in front of a line, unless it is the first. -/
  marginAt (pos : Nat) (l : TextLine) : List (Nat × Margin) :=
    if pos == 0 || l.margin.chars.isEmpty then [] else [(pos, l.margin)]

/-- Where the text of a line starts. -/
def origin (l : TextLine) : Location := (Location.lineStart l.number).after l.margin.chars

/-- Where the text of a line ends. -/
def stop (l : TextLine) : Location := l.origin.after l.text

/-- Lines as one passage. -/
def join (lines : List TextLine) : Passage :=
  let (chars, margins) := joinFrom 0 lines
  match lines with
  | [] => { chars, margins }
  | first :: _ =>
    { chars, margins
      origin := first.origin
      before := first.margin.chars.getLast?
      insideTab := first.margin.insideTab }

/-- Lines as one passage, with the ending of the last line. -/
def joinAll (lines : List TextLine) : Passage :=
  let p := join lines
  { p with chars := p.chars ++ (lines.getLast?.map (·.ending)).getD [] }

end TextLine

end Typeset.Markdown
