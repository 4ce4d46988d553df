/-
How the lines of leaf blocks start.

Each reader takes a line from where its containers end. White space in front
of a construct is at most three columns wide where four would make code.
-/
import Typeset.Markdown.Dialect
import Typeset.Markdown.Escaped
import Typeset.Markdown.Line

namespace Typeset.Markdown

/-- The cursor behind the white space that may stand in front of a construct. -/
def Dialect.unindent? (dialect : Dialect) (c : Cursor) : Option Cursor :=
  if !dialect.indentedCode || c.indent < 4 then some c.unindent else none

/-- An opened fence of code or math. -/
structure Fence where
  marker : Char
  size : Nat
  /-- Columns of white space that its lines lose. -/
  indent : Nat
  lang : Option String

namespace Leaf

/-- The number of markers on a line that holds one marker of thematic breaks, with white space
between. -/
def breakMarks? (cs : List Char) : Option Nat :=
  let marks := cs.filter (!isSpacing ·)
  match marks with
  | c :: _ =>
    if (c == '*' || c == '-' || c == '_') && marks.all (· == c) then some marks.length else none
  | [] => none

/-- Three or more of one marker, with white space between. -/
def isThematicBreak (cs : List Char) : Bool := (breakMarks? cs).any (3 ≤ ·)

/-- Content of a heading from its first character that is neither white space nor `#`. -/
def headingStart (cs : List Char) : List Char := cs.dropWhile fun c => isSpacing c || c == '#'

/-- Content of a heading, last character first, without the runs of `#` that close it. -/
def dropClosing (reversed : List Char) : List Char :=
  let content := reversed.dropWhile isSpacing
  match _h : content.dropWhile (· == '#') with
  | [] => []
  | c :: more => if isSpacing c then dropClosing more else content
termination_by reversed.length
decreasing_by
  have h1 := (List.dropWhile_sublist isSpacing (l := reversed)).length_le
  have h2 := (List.dropWhile_sublist (· == '#') (l := content)).length_le
  rw [_h] at h2
  simp only [content, List.length_cons] at *
  omega

/-- Rank and content of a heading that starts with `#`, with all that is left of the line from the
content on. -/
def heading? (cs : List Char) : Option (UInt8 × List Char × List Char) :=
  let marks := cs.takeWhile (· == '#')
  let rest := cs.drop marks.length
  if marks.isEmpty || 6 < marks.length || !(rest.head?.all isSpacing) then none
  else
    let left := headingStart rest
    some (UInt8.ofNat marks.length, (dropClosing left.reverse).reverse, left)

/-- The rank that an underline gives to the paragraph above it. -/
def underline? (cs : List Char) : Option UInt8 :=
  match cs with
  | c :: _ =>
    if (c == '=' || c == '-') && (cs.dropWhile (· == c)).all isSpacing then
      some (if c == '=' then 1 else 2)
    else none
  | [] => none

/-- The smallest fence of a marker. -/
def fenceSize (marker : Char) : Nat := if marker == '$' then 2 else 3

/-- Whether a character may fence code or math. -/
def isFenceMarker (dialect : Dialect) (c : Char) : Bool :=
  c == '\x60' || c == '~' || (dialect.math && c == '$')

/-- An opening fence; `indent` counts the white space in front of it. -/
def fence? (dialect : Dialect) (indent : Nat) (cs : List Char) : Option Fence :=
  match cs with
  | marker :: _ =>
    let marks := cs.takeWhile (· == marker)
    let info := (cs.drop marks.length).dropWhile isSpacing
    if !isFenceMarker dialect marker || marks.length < fenceSize marker
        || (marker != '~' && info.contains marker) then none
    else
      let word := info.takeWhile (!isSpacing ·)
      let lang := if marker == '$' || word.isEmpty then none else some (Escaped.read word)
      some { marker, size := marks.length, indent, lang }
  | [] => none

/-- Whether a line breaks off inside the markers of a fence or a thematic break. -/
def breaksOff (dialect : Dialect) (cs : List Char) : Bool :=
  (breakMarks? cs).any (· < 3)
    || match cs with
      | marker :: _ =>
        isFenceMarker dialect marker && cs.all (· == marker) && cs.length < fenceSize marker
      | [] => false

/-- Whether a line closes a fence; the white space in front of it is gone. -/
def closesFence (fence : Fence) (cs : List Char) : Bool :=
  let marks := cs.takeWhile (· == fence.marker)
  fence.size ≤ marks.length && (cs.drop marks.length).all isSpacing

end Leaf

end Typeset.Markdown
