/-
The syntax tree of Markdown.

`Phrase` is content inside a line of text, `Flow` the blocks around it. A
block is written over the type of the text it holds: block structure is read
first and gives `Flow Passage`, whose passages are then read as phrases.
-/
import Typeset.Document
import Typeset.Markdown.Program

namespace Typeset.Markdown

/-- The positions in a passage between which something stands. -/
structure Span where
  start : Nat
  stop : Nat

/-- Content of a passage of text. -/
inductive Phrase where
  | text (value : String)
  | emphasis (span : Span) (children : List Phrase)
  | strong (span : Span) (children : List Phrase)
  | strike (children : List Phrase)
  | code (value : String)
  | math (value : String)
  | hardBreak
  | link (url : String) (children : List Phrase)
  | image (url : String) (alt : String)
  | linkReference (identifier : String) (label : String) (children : List Phrase)
  | imageReference (identifier : String) (alt : String)
  | footnoteReference (identifier : String)
  | html (value : String)
  /-- A tag or, without one, an expression of an embedded program. -/
  | program (tag : Option Tag)
  deriving Inhabited

/-- A block whose text has type `α`. -/
inductive Flow (α : Type) where
  | yaml (value : String)
  | toml (value : String)
  | definition (identifier : String) (url : String)
  | footnoteDefinition (identifier : String) (children : List (Flow α))
  /-- A heading that starts with markers or is underlined. -/
  | heading (depth : UInt8) (underlined : Bool) (content : α)
  | paragraph (content : α)
  /-- Items share a delimiter: a bullet, or the character after the number. -/
  | list (delimiter : Char) (items : List (List (Flow α)))
  | code (lang : Option String) (value : String)
  | quote (children : List (Flow α))
  | thematicBreak
  | table (align : List (Option Align)) (rows : List (List α))
  | math (value : String)
  | html
  /-- Lines that belong to an embedded program. -/
  | program (content : α)
  /-- Blocks that are read but belong to no document. -/
  | hidden (children : List (Flow α))
  deriving Inhabited

mutual

/-- The plain text of a phrase; images, breaks and notes have none. -/
def Phrase.plain : Phrase → String
  | .text value | .code value | .math value | .html value => value
  | .emphasis _ children | .strong _ children | .strike children | .link _ children
  | .linkReference _ _ children => Phrase.plainAll children
  | .hardBreak | .image _ _ | .imageReference _ _ | .footnoteReference _ | .program _ => ""

/-- The plain text of a run of phrases. -/
def Phrase.plainAll : List Phrase → String
  | [] => ""
  | p :: ps => p.plain ++ Phrase.plainAll ps

end

end Typeset.Markdown
