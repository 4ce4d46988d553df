/-
Containers: block quotes, list items and notes, which hold other blocks.

A container stands on a line when the line starts with its marker, or, for
items and notes, with enough white space or nothing at all.
-/
import Typeset.Markdown.Label
import Typeset.Markdown.Leaf

namespace Typeset.Markdown

inductive Container where
  | quote
  /-- An item with the width of its prefix; `blank` when nothing has followed its marker yet. -/
  | item (delimiter : Char) (width : Nat) (blank : Bool)
  /-- A note definition with its label. -/
  | note (label : List Char)

namespace Container

/-- The cursor behind the marker of a quote. -/
def quote? (dialect : Dialect) (c : Cursor) : Option Cursor := do
  let c ← dialect.unindent? c
  match c.rest with
  | '>' :: rest => return ((c.advance rest).skip 1).2
  | _ => none

/-- The delimiter of an item and what its number or bullet leaves. An item that interrupts a
paragraph has the number one. -/
def marker? (interrupts : Bool) (cs : List Char) : Option (Char × List Char) :=
  match cs with
  | [] => none
  | c :: rest =>
    if c == '+' || ((c == '*' || c == '-') && !Leaf.isThematicBreak cs) then some (c, rest)
    else
      let digits := cs.takeWhile Char.isDigit
      match cs.drop digits.length with
      | d :: rest =>
        if (d == '.' || d == ')') && 1 ≤ digits.length && digits.length ≤ 9
            && (!interrupts || digits == ['1']) then
          some (d, rest)
        else none
      | [] => none

/-- The item that starts at the cursor, and the cursor behind its marker and white space. A carriage
return that directly follows the marker counts in the width of its prefix. -/
def item? (dialect : Dialect) (interrupts endsInPair : Bool) (c : Cursor) :
    Option (Container × Cursor) := do
  let start ← dialect.unindent? c
  let (delimiter, rest) ← marker? interrupts start.rest
  let after := start.advance rest
  if after.isBlank then
    if interrupts then none
    else
      let width := c.span after + (if rest.isEmpty && endsInPair then 2 else 1)
      return (.item delimiter width true, after)
  else
    let (spaces, content) := after.skip 4
    if spaces == 0 then none
    else
      let content := if content.rest.head?.any isSpacing then (after.skip 1).2 else content
      return (.item delimiter (c.span content) false, content)

/-- The label of a note up to its closing bracket. `size` counts its bytes. -/
def noteLabel? (size : Nat) (escaped : Bool) (taken : List Char) :
    List Char → Option (List Char × List Char)
  | [] => none
  | c :: cs =>
    if escaped && (c == '[' || c == '\\' || c == ']') then
      noteLabel? (size + 1) false (c :: taken) cs
    else if 999 < size || c == '[' || isSpacing c then none
    else if c == ']' then if taken.isEmpty then none else some (taken.reverse, cs)
    else noteLabel? (size + c.utf8Size) (c == '\\') (c :: taken) cs

/-- The note definition that starts at the cursor. All white space behind its marker goes. -/
def note? (dialect : Dialect) (c : Cursor) : Option (Container × Cursor) := do
  if !dialect.footnote then none
  else
    let start ← dialect.unindent? c
    match start.rest with
    | '[' :: '^' :: cs =>
      let (label, rest) ← noteLabel? 0 false [] cs
      match rest with
      | ':' :: rest =>
        return (.note label, (start.advance rest).unindent)
      | _ => none
    | _ => none

/-- The container that starts at the cursor. `interrupts` tells that a paragraph goes on there, and
`endsInPair` that the line ends in a carriage return and a line feed. -/
def start? (dialect : Dialect) (interrupts endsInPair : Bool) (c : Cursor) :
    Option (Container × Cursor) :=
  match quote? dialect c with
  | some after => some (.quote, after)
  | none => (item? dialect interrupts endsInPair c).or (note? dialect c)

/-- A container that goes on at the cursor, and the cursor behind what it takes of the line. -/
def continue? (dialect : Dialect) (container : Container) (c : Cursor) :
    Option (Container × Cursor) :=
  match container with
  | .quote => (quote? dialect c).map fun after => (.quote, after)
  | .item delimiter width blank =>
    if c.isBlank then
      if blank then none else some (container, (c.skip width).2)
    else (c.skipExactly? width).map fun after => (.item delimiter width false, after)
  | .note _ =>
    if c.isBlank then some (container, (c.skip 4).2)
    else (c.skipExactly? 4).map fun after => (container, after)

end Container

end Typeset.Markdown
