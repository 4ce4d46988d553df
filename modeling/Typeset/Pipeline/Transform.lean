/-
Transforms with a name: changes of the source of a document, or of the document.
-/
import Typeset.Document.Spans

namespace Typeset

/-- A text with the occurrences of a pattern replaced, where the first `skip` characters belong to
an occurrence that is replaced already. -/
def Text.replaceFrom (pattern replacement : List Char) : Nat → List Char → List Char
  | skip + 1, _ :: cs => Text.replaceFrom pattern replacement skip cs
  | 0, c :: cs =>
    if pattern.isPrefixOf (c :: cs) then
      match pattern with
      | [] => replacement ++ c :: Text.replaceFrom pattern replacement 0 cs
      | _ :: rest => replacement ++ Text.replaceFrom pattern replacement rest.length cs
    else c :: Text.replaceFrom pattern replacement 0 cs
  | _, [] => if pattern.isEmpty then replacement else []

/-- A text with every occurrence of a pattern replaced, from left to right. The empty pattern occurs
before every character and at the end. -/
def Text.replaceAll (pattern replacement s : String) : String :=
  String.ofList (Text.replaceFrom pattern.toList replacement.toList 0 s.toList)

inductive TextTransform where
  | identity
  | replace (pattern replacement : String)

def TextTransform.apply : TextTransform → String → String
  | .identity, s => s
  | .replace pattern replacement, s => Text.replaceAll pattern replacement s

inductive TreeTransform where
  /-- Cuts superscript and subscript spans. -/
  | supersub
  /-- Reverses the root blocks. -/
  | reverse
  | appendHeading (depth : UInt8) (text : String)
  | appendParagraph (nodes : List Inline)

def TreeTransform.apply : TreeTransform → Document → Document
  | .supersub, d => d.splitSpans
  | .reverse, d => ⟨d.children.reverse⟩
  | .appendHeading depth text, d => ⟨d.children ++ [.heading depth [.text text]]⟩
  | .appendParagraph nodes, d => ⟨d.children ++ [.paragraph nodes]⟩

end Typeset
