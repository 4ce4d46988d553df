/-
Title, authors and language of a document.

What the caller gives wins over the metadata block, and that over the heading
that opens the document. A heading that only repeats the title is left out of
the body.
-/
import Typeset.Metadata.Frontmatter
import Typeset.PlainText

namespace Typeset

/-- A language that templates know. -/
inductive Lang where
  | zh
  | en
  deriving DecidableEq

namespace Lang

/-- The tag of a language. -/
def tag : Lang → String
  | .zh => "zh"
  | .en => "en"

/-- The language of a free-form value, by the two letters that it begins with. -/
def coerce? (value : String) : Option Lang :=
  match (Text.lowercase (Text.trimBlanks value)).toList with
  | 'z' :: 'h' :: _ => some .zh
  | 'e' :: 'n' :: _ => some .en
  | _ => none

end Lang

/-- What a caller asks of a conversion. -/
structure Options where
  title : Option String := none
  authors : Option (List String) := none
  /-- The style of the template; one that no template has means the default style. -/
  style : Option String := none
  lang : Option Lang := none

/-- A heading that opens a document. -/
structure LeadingTitle where
  /-- Its plain text without blank characters at the ends. -/
  text : String
  /-- Its place among the root blocks. -/
  index : Nat

/-- The metadata that a document ends up with. -/
structure Metadata where
  title : String
  authors : List String
  lang : Lang
  /-- The root block that repeats the title and is left out of the body. -/
  excluded : Option Nat := none

namespace Block

/-- A block that may stand before the heading that opens a document. -/
def isPreamble : Block → Bool
  | .frontmatter _ => true
  | .linkDefinition _ _ => true
  | _ => false

/-- The metadata that a block holds. -/
def frontmatter? : Block → Option Frontmatter
  | .frontmatter value => some (.read value)
  | _ => none

/-- The trimmed plain text of a heading of the first level. -/
def titleText? (refs : References) : Block → Option String
  | .heading depth children =>
    if depth == 1 then
      let text := Text.trimBlanks (Inline.plainTexts refs children)
      if text.isEmpty then none else some text
    else none
  | _ => none

end Block

namespace Document

/-- The metadata of the first metadata block among the root blocks. -/
def frontmatter (d : Document) : Frontmatter := (d.children.findSome? Block.frontmatter?).getD {}

/-- The heading that comes first after metadata blocks and link definitions. -/
def leadingTitle? (refs : References) (d : Document) : Option LeadingTitle :=
  match d.children.dropWhile Block.isPreamble with
  | block :: _ =>
    (block.titleText? refs).map (⟨·, (d.children.takeWhile Block.isPreamble).length⟩)
  | [] => none

end Document

/-- The metadata of a document under the options of a caller. -/
def Metadata.resolve (d : Document) (o : Options) (refs : References) : Metadata :=
  let frontmatter := d.frontmatter
  let leading := d.leadingTitle? refs
  let title := ((o.title.or frontmatter.title).or (leading.map (·.text))).getD ""
  { title
    authors := (o.authors.or frontmatter.authors).getD []
    lang := (o.lang.or (frontmatter.lang.bind Lang.coerce?)).getD .zh
    excluded := (leading.filter fun l => Text.trimBlanks l.text == Text.trimBlanks title).map
      (·.index) }

end Typeset
