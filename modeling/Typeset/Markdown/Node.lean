/-
What a reader of Markdown gives back.

A tree of nodes, in which every kind of content may stand below every other, or
a message. Of a node only that is kept which documents are made of. The tree
and the faults of this library are handed on in this form.
-/
import Typeset.Markdown.Tree

namespace Typeset.Markdown

/-- A node of any kind. -/
inductive Node where
  | root (children : List Node)
  | blockquote (children : List Node)
  | footnoteDefinition (identifier : String) (children : List Node)
  | list (ordered : Bool) (children : List Node)
  | listItem (children : List Node)
  | paragraph (children : List Node)
  | heading (depth : UInt8) (children : List Node)
  | table (align : List (Option Align)) (children : List Node)
  | tableRow (children : List Node)
  | tableCell (children : List Node)
  | yaml (value : String)
  | toml
  | definition (identifier : String) (url : String)
  | code (lang : Option String) (value : String)
  | math (value : String)
  | thematicBreak
  /-- Raw HTML, in flow or in text. -/
  | html
  | text (value : String)
  | emphasis (children : List Node)
  | strong (children : List Node)
  | delete (children : List Node)
  | inlineCode (value : String)
  | inlineMath (value : String)
  | hardBreak
  | link (url : String) (children : List Node)
  | image (url : String) (alt : String)
  | linkReference (identifier : String) (label : Option String) (children : List Node)
  | imageReference
  | footnoteReference (identifier : String)
  /-- Imports and exports of an embedded program. -/
  | esm
  | flowElement (children : List Node)
  | textElement (children : List Node)
  | flowExpression
  | textExpression
  deriving Inhabited

/-! ## Messages -/

/-- What a message is about: a point of the source, or a stretch of it. -/
inductive Extent where
  | point (location : Location)
  | stretch (start stop : Location)

namespace Extent

def start : Extent → Location
  | .point location => location
  | .stretch start _ => start

def display : Extent → String
  | .point location => location.display
  | .stretch start stop => start.display ++ "-" ++ stop.display

end Extent

/-- Why there is no tree. -/
structure Message where
  extent : Option Extent
  reason : String
  /-- Who reports it. -/
  source : String
  /-- The rule that is broken. -/
  rule : String

namespace Message

/-- The text that is shown for a message. -/
def display (m : Message) : String :=
  (match m.extent with
    | some extent => extent.display ++ ": "
    | none => "")
    ++ m.reason ++ " (" ++ m.source ++ ":" ++ m.rule ++ ")"

/-- The place of a message; one that is about no place is about the start of the source. -/
def location (m : Message) : Location :=
  match m.extent with
  | some extent => extent.start
  | none => default

end Message

/-- A fault as a message. -/
def Fault.message (f : Fault) : Message where
  extent := some (match f.stop with
    | some stop => .stretch f.start stop
    | none => .point f.start)
  reason := f.reason
  source := "markdown-rs"
  rule := f.rule

/-! ## Trees -/

mutual

/-- A phrase as a node. -/
def Phrase.node : Phrase → Node
  | .text value => .text value
  | .emphasis _ children => .emphasis (Phrase.nodes children)
  | .strong _ children => .strong (Phrase.nodes children)
  | .strike children => .delete (Phrase.nodes children)
  | .code value => .inlineCode value
  | .math value => .inlineMath value
  | .hardBreak => .hardBreak
  | .link url children => .link url (Phrase.nodes children)
  | .image url alt => .image url alt
  | .linkReference identifier label children =>
    .linkReference identifier (some label) (Phrase.nodes children)
  | .imageReference _ _ => .imageReference
  | .footnoteReference identifier => .footnoteReference identifier
  | .html _ => .html
  | .program (some _) => .textElement []
  | .program none => .textExpression

def Phrase.nodes : List Phrase → List Node
  | [] => []
  | p :: ps => p.node :: Phrase.nodes ps

end

mutual

/-- A block as a node. -/
def Flow.node : Flow (List Phrase) → Node
  | .yaml value => .yaml value
  | .toml _ => .toml
  | .definition identifier url => .definition identifier url
  | .footnoteDefinition identifier children => .footnoteDefinition identifier (Flow.nodes children)
  | .heading depth _ content => .heading depth (Phrase.nodes content)
  | .paragraph content => .paragraph (Phrase.nodes content)
  | .list delimiter items => .list (delimiter == '.' || delimiter == ')') (Flow.itemNodes items)
  | .code lang value => .code lang value
  | .quote children => .blockquote (Flow.nodes children)
  | .thematicBreak => .thematicBreak
  | .table align rows =>
    .table align (rows.map fun row => .tableRow (row.map fun cell => .tableCell (Phrase.nodes cell)))
  | .math value => .math value
  | .html => .html
  | .program _ => .flowExpression
  | .hidden children => .flowElement (Flow.nodes children)

def Flow.nodes : List (Flow (List Phrase)) → List Node
  | [] => []
  | b :: bs => b.node :: Flow.nodes bs

def Flow.itemNodes : List (List (Flow (List Phrase))) → List Node
  | [] => []
  | bs :: rest => .listItem (Flow.nodes bs) :: Flow.itemNodes rest

end

end Typeset.Markdown
