/-
Phrasing content as plain text.

The text is only compared, with a title or with the mark of an outline: it is
never written. Strong and emphasised text and the texts of links count, code
as it stands. Notes, images, formulas and the other kinds of marked text
contribute nothing.
-/
import Typeset.References
import Typeset.Text.Blank

namespace Typeset

/-- The label of a reference as written, or its identifier where it has none. -/
def literalLabel (label : Option String) (identifier : String) : String :=
  match label with
  | some label => if label.isEmpty then identifier else label
  | none => identifier

mutual

/-- The plain text of an inline. A reference whose text is blank stands for its URL, or for its
label where it has no definition. -/
def Inline.plainText (refs : References) : Inline → String
  | .text value => value
  | .inlineCode value => value
  | .strong children => Inline.plainTexts refs children
  | .emphasis children => Inline.plainTexts refs children
  | .link _ children => Inline.plainTexts refs children
  | .linkReference identifier label children =>
    let text := Inline.plainTexts refs children
    if Text.isBlankText text then (refs.url? identifier).getD (literalLabel label identifier)
    else text
  | .lineBreak => "\n"
  | .strike _ => ""
  | .highlight _ => ""
  | .subscript _ => ""
  | .superscript _ => ""
  | .inlineMath _ => ""
  | .footnoteReference _ => ""
  | .image _ _ => ""

def Inline.plainTexts (refs : References) : List Inline → String
  | [] => ""
  | i :: is => i.plainText refs ++ Inline.plainTexts refs is

end

end Typeset
