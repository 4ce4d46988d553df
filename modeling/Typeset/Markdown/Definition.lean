/-
Link definitions at the start of a paragraph's text.

Text is definitions, one after the other, and then what is left of it. A
definition ends with its line; a title that does not fit is no part of it.
-/
import Typeset.Markdown.Escaped
import Typeset.Markdown.Label
import Typeset.Markdown.Link

namespace Typeset.Markdown

/-- A definition as it is read: position and source of its label, and its destination. -/
structure Definition where
  position : Nat
  label : List Char
  url : String

namespace Definition

/-- What follows the line that ends here, if only white space is left of it. -/
def endOfLine? (cs : List Char) : Option (List Char) :=
  match Link.skipSpacing cs with
  | [] => some []
  | rest => (splitEnding? rest).map (·.2)

/-- What follows a title that takes the rest of its line. -/
def titled? (cs : List Char) : Option (List Char) := do
  endOfLine? (← Link.title? (← Link.skipGap? cs))

/-- A definition at the start of the characters, which begin at `position`. -/
def read? (position : Nat) (cs : List Char) : Option (Definition × List Char) := do
  let start := Link.skipSpacing cs
  let (label, rest) ← Link.label? start
  match rest with
  | ':' :: rest =>
    let (destination, rest) ← Link.destination? cs.length (Link.skipGap rest)
    let after ← (titled? rest).or (endOfLine? rest)
    let definition : Definition :=
      { position := position + (cs.length - start.length) + 1
        label
        url := Escaped.read destination }
    return (definition, after)
  | _ => none

/-- All definitions at the start, and the position of what is left. -/
def readAll (position : Nat) (cs : List Char) : List Definition × Nat :=
  match read? position cs with
  | some (definition, rest) =>
    if rest.length < cs.length then
      let (definitions, left) := readAll (position + (cs.length - rest.length)) rest
      (definition :: definitions, left)
    else ([], position)
  | none => ([], position)
termination_by cs.length

end Definition

end Typeset.Markdown
