/-
Documents from the tree of a reader of Markdown.

Raw HTML, image references, unread metadata, embedded programs and whatever
stands where it has no meaning have no place in a document and are dropped; the
texts around a dropped node stay separate leaves.
-/
import Typeset.Document
import Typeset.Markdown.Node

namespace Typeset

open Markdown

mutual

/-- The inline of a node, if it has one. -/
def Inline.ofNode : Node → Option Inline
  | .text value => some (.text value)
  | .strong children => some (.strong (Inline.ofNodes children))
  | .emphasis children => some (.emphasis (Inline.ofNodes children))
  | .delete children => some (.strike (Inline.ofNodes children))
  | .inlineCode value => some (.inlineCode value)
  | .inlineMath value => some (.inlineMath value)
  | .link url children => some (.link url (Inline.ofNodes children))
  | .linkReference identifier label children =>
    some (.linkReference identifier label (Inline.ofNodes children))
  | .footnoteReference identifier => some (.footnoteReference identifier)
  | .image url alt => some (.image url alt)
  | .hardBreak => some .lineBreak
  | _ => none

/-- The inlines of those nodes that have one. -/
def Inline.ofNodes : List Node → List Inline
  | [] => []
  | n :: ns => (Inline.ofNode n).toList ++ Inline.ofNodes ns

end

/-- The run of a table cell. -/
def Inline.ofCell? : Node → Option (List Inline)
  | .tableCell children => some (Inline.ofNodes children)
  | _ => none

/-- The cells of a table row. -/
def Inline.ofRow? : Node → Option (List (List Inline))
  | .tableRow children => some (children.filterMap Inline.ofCell?)
  | _ => none

mutual

/-- The block of a node, if it has one. -/
def Block.ofNode : Node → Option Block
  | .yaml value => some (.frontmatter value)
  | .definition identifier url => some (.linkDefinition identifier url)
  | .footnoteDefinition identifier children =>
    some (.footnoteDefinition identifier (Block.ofNodes children))
  | .heading depth children => some (.heading depth (Inline.ofNodes children))
  | .paragraph children => some (.paragraph (Inline.ofNodes children))
  | .list ordered children => some (.list ordered (Block.ofItems children))
  | .code lang value => some (.codeBlock lang value)
  | .blockquote children => some (.blockquote (Block.ofNodes children))
  | .thematicBreak => some .thematicBreak
  | .table align children => some (.table align (children.filterMap Inline.ofRow?))
  | .math value => some (.mathBlock value)
  | _ => none

/-- The blocks of those nodes that have one. -/
def Block.ofNodes : List Node → List Block
  | [] => []
  | n :: ns => (Block.ofNode n).toList ++ Block.ofNodes ns

/-- The items among the nodes of a list. -/
def Block.ofItems : List Node → List (List Block)
  | [] => []
  | .listItem children :: ns => Block.ofNodes children :: Block.ofItems ns
  | _ :: ns => Block.ofItems ns

end

/-- The document of the nodes below a root. -/
def Document.ofNodes (nodes : List Node) : Document := ⟨Block.ofNodes nodes⟩

end Typeset
