/-
The document tree: blocks that hold phrasing content.

A document is a list of blocks. Blocks and inlines are closed sets of
variants; a list item is the list of its blocks, a table cell the run of its
inlines, and the first row of a table is its header. The tree is produced
once, changed by transforms, and then only read.
-/

namespace Typeset

/-- Column alignment that a table declares. -/
inductive Align where
  | left
  | right
  | center
  deriving Repr, DecidableEq

/-- Phrasing content. -/
inductive Inline where
  | text (value : String)
  | strong (children : List Inline)
  | emphasis (children : List Inline)
  | strike (children : List Inline)
  | highlight (children : List Inline)
  | subscript (children : List Inline)
  | superscript (children : List Inline)
  | inlineCode (value : String)
  | inlineMath (value : String)
  | link (url : String) (children : List Inline)
  /-- A reference to a link definition; `label` is kept as the source writes it. -/
  | linkReference (identifier : String) (label : Option String) (children : List Inline)
  | footnoteReference (identifier : String)
  | image (url : String) (alt : String)
  | lineBreak
  deriving Inhabited

/-- Flow content. -/
inductive Block where
  /-- Raw metadata, without its fences. -/
  | frontmatter (value : String)
  | linkDefinition (identifier : String) (url : String)
  | footnoteDefinition (identifier : String) (children : List Block)
  /-- A heading; ranks outside 1 to 6 are clamped where it is rendered. -/
  | heading (depth : UInt8) (children : List Inline)
  | paragraph (children : List Inline)
  | list (ordered : Bool) (items : List (List Block))
  | codeBlock (lang : Option String) (value : String)
  | blockquote (children : List Block)
  | thematicBreak
  /-- Declared alignments and the rows, header first. -/
  | table (align : List (Option Align)) (rows : List (List (List Inline)))
  | mathBlock (value : String)
  deriving Inhabited

/-- The ordered blocks of one document. -/
structure Document where
  children : List Block
  deriving Inhabited

namespace Inline

/-- The child sequence of a container, `none` for a leaf. -/
def children? : Inline → Option (List Inline)
  | .strong children | .emphasis children | .strike children | .highlight children
  | .subscript children | .superscript children | .link _ children
  | .linkReference _ _ children => some children
  | .text _ | .inlineCode _ | .inlineMath _ | .footnoteReference _ | .image _ _
  | .lineBreak => none

end Inline

end Typeset
