/-
Rows of a table.

A row is cut at its pipes; a backslash protects a pipe, and pipes at the two
ends add no cell. The row of dashes below the header declares the alignments.
-/
import Typeset.Document
import Typeset.Markdown.Passage

namespace Typeset.Markdown.Table

/-- A text without spaces and tabs at its ends. -/
def trim (cs : List Char) : List Char :=
  ((cs.dropWhile isSpacing).reverse.dropWhile isSpacing).reverse

/-- Cuts at each pipe that no backslash protects. `taken` holds the cell so far, last character
first. -/
def cut (escaped : Bool) (taken : List Char) : List Char → List (List Char)
  | [] => [taken.reverse]
  | c :: cs =>
    if escaped && (c == '|' || c == '\\') then cut false (c :: taken) cs
    else if c == '|' then taken.reverse :: cut false [] cs
    else cut (c == '\\') (c :: taken) cs

/-- Whether a row starts with a pipe. -/
def isPiped (cs : List Char) : Bool := (trim cs).head? == some '|'

/-- A trimmed row without the pipe that starts it. -/
def unpiped : List Char → List Char
  | '|' :: cs => cs
  | cs => cs

/-- What stands between the pipes of a row. -/
def segments (cs : List Char) : List (List Char) := cut false [] (unpiped (trim cs))

/-- The cell in what stands between two characters of a row. -/
def cell (before after : Option Char) (segment : List Char) : Passage where
  chars := trim segment
  before := if segment.head?.any isSpacing then some ' ' else before
  after := if segment.getLast?.any isSpacing then some ' ' else after

/-- The cells in what stands between pipes, behind the character `before`. A blank one after the
last pipe is none. -/
def cellsFrom (before : Option Char) : List (List Char) → List Passage
  | [] => []
  | [last] => if before == some '|' && last.all isSpacing then [] else [cell before none last]
  | segment :: rest => cell before (some '|') segment :: cellsFrom (some '|') rest

/-- The cells of a row. -/
def cells (cs : List Char) : List Passage :=
  match segments cs with
  | [only] => [cell (if isPiped cs then some '|' else none) none only]
  | all => cellsFrom (if isPiped cs then some '|' else none) all

/-- Whether a line can be the header of a table: more than one lone pipe. -/
def canBeHeader (cs : List Char) : Bool := trim cs != ['|'] && !(trim cs).isEmpty

/-- Whether a row ends with a pipe. -/
def endsOpen (cs : List Char) : Bool :=
  let all := segments cs
  1 < all.length && all.getLast?.any (·.all isSpacing)

/-- The alignment of one cell of the row of dashes. -/
def alignment? (cs : List Char) : Option (Option Align) :=
  let (left, cs) := match cs with
    | ':' :: rest => (true, rest)
    | rest => (false, rest)
  let dashes := cs.takeWhile (· == '-')
  if dashes.isEmpty then none
  else match left, cs.drop dashes.length with
    | false, [] => some none
    | true, [] => some (some .left)
    | false, [':'] => some (some .right)
    | true, [':'] => some (some .center)
    | _, _ => none

/-- The alignments that a row of dashes declares. It holds a colon or a pipe. -/
def alignments? (cs : List Char) : Option (List (Option Align)) :=
  if cs.contains '|' || cs.contains ':' then
    let row := unpiped (trim cs)
    let row := if row.getLast? == some '|' then row.dropLast else row
    ((row.splitOn '|').map trim).mapM alignment?
  else none

end Typeset.Markdown.Table
