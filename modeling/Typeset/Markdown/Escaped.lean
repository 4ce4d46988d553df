/-
Text in which only backslashes and character references are read: the
destination of a link, the label of a reference, the language of a code block.

White space next to a line ending is dropped. Where a line starts inside a tab,
the last of that tab and the white space behind it stays.
-/
import Typeset.Text.Punctuation
import Typeset.Markdown.Entity
import Typeset.Markdown.Passage

namespace Typeset.Markdown.Escaped

/-- What an escape or a reference that starts with `c` stands for, with the number of further
characters that it takes. -/
def decoded? (c : Char) (cs : List Char) : Option (List Char × Nat) :=
  match c, cs with
  | '\\', d :: _ => if Text.isAsciiPunctuation d then some ([d], 1) else none
  | '&', _ => (Entity.read? cs).map fun (value, rest) => (value.toList, cs.length - rest.length)
  | _, _ => none

/-- Reads the last list, which starts at `position`. `out` holds what is read and `spacing` the
white space behind it, both last character first. `skip` counts characters that a construct has
already taken, and `insideTab` tells of a position where a line starts whether it starts inside a
tab. -/
def readFrom (insideTab : Nat → Bool) (position : Nat) (out spacing : List Char) (skip : Nat)
    (line : LineStart) : List Char → List Char
  | [] =>
    match line with
    | .inside => (spacing ++ out).reverse
    | .fresh _ => out.reverse
  | c :: cs =>
    let next := position + 1
    if skip != 0 then readFrom insideTab next out spacing (skip - 1) .inside cs
    else if isEnding c then
      let tab := insideTab next
      readFrom insideTab next (c :: out) (if tab then ['\t'] else []) 0 (.fresh tab) cs
    else if isSpacing c then
      let spacing := match line with
        | .inside => c :: spacing
        | .fresh tab => if tab then [c] else []
      readFrom insideTab next out spacing 0 line cs
    else
      let (value, n) := (decoded? c cs).getD ([c], 0)
      readFrom insideTab next (value.reverse ++ (spacing ++ out)) [] n .inside cs

/-- The text that the source `cs` stands for, which starts at a position of a passage. -/
def readIn (passage : Passage) (position : Nat) (cs : List Char) : String :=
  String.ofList (readFrom passage.startsInsideTab position [] [] 0 .inside cs)

/-- The text that the source `cs` on one line stands for. -/
def read (cs : List Char) : String :=
  String.ofList (readFrom (fun _ => false) 0 [] [] 0 .inside cs)

end Typeset.Markdown.Escaped
