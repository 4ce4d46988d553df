/-
From a Markdown source to a document.

A pipeline changes the source by its text transforms, reads it in its dialect
and changes the document by its tree transforms, each list from first to last.
`Pipeline.runWith` takes any reader of Markdown.
-/
import Typeset.Document.OfMarkdown
import Typeset.Document.Spans
import Typeset.Markdown

namespace Typeset

/-- What a caller switches on when a source is parsed. -/
structure ParseOptions where
  /-- Tables, notes, struck text, task items and bare addresses. -/
  gfm : Bool := true
  frontmatter : Bool := true
  math : Bool := true
  /-- Superscript and subscript spans are cut after reading. -/
  supersub : Bool := true

/-- The dialect that options ask for. -/
def ParseOptions.dialect (o : ParseOptions) : Markdown.Dialect :=
  Markdown.Dialect.extended o.gfm o.frontmatter o.math

/-- Why a source gives no document. -/
inductive ParseError where
  /-- The source breaks a rule at a place. -/
  | source (message : String) (location : Location)
  /-- The reader gave no document root. -/
  | internal (message : String)
  deriving DecidableEq

namespace ParseError

/-- The text that is shown for an error. -/
def message : ParseError → String
  | .source message location => "Parse error at " ++ location.display ++ ": " ++ message
  | .internal message => "Internal error: " ++ message

end ParseError

/-- A reader of Markdown that knows the dialects `δ`: it gives the nodes below the root of a tree, or
the message why there is none. -/
abbrev MarkdownReader (δ : Type) := δ → String → Except Markdown.Message (List Markdown.Node)

structure Pipeline (δ : Type) where
  dialect : δ
  textTransforms : List (String → String)
  treeTransforms : List (Document → Document)

namespace Pipeline

section

variable {δ : Type}

/-- The pipeline that only reads. -/
def ofDialect (dialect : δ) : Pipeline δ := ⟨dialect, [], []⟩

def addTextTransform (p : Pipeline δ) (f : String → String) : Pipeline δ :=
  { p with textTransforms := p.textTransforms ++ [f] }

def addTreeTransform (p : Pipeline δ) (f : Document → Document) : Pipeline δ :=
  { p with treeTransforms := p.treeTransforms ++ [f] }

/-- The source as the reader sees it. -/
def prepare (p : Pipeline δ) (source : String) : String :=
  p.textTransforms.foldl (fun s f => f s) source

/-- The document as the tree transforms leave it. -/
def finish (p : Pipeline δ) (d : Document) : Document :=
  p.treeTransforms.foldl (fun d f => f d) d

/-- Runs the pipeline with a reader. -/
def runWith (read : MarkdownReader δ) (p : Pipeline δ) (source : String) :
    Except ParseError Document :=
  match read p.dialect (p.prepare source) with
  | .error message => .error (.source message.display message.location)
  | .ok nodes => .ok (p.finish (.ofNodes nodes))

end

/-- The pipeline of options; spans are cut before any transform that is added later. -/
def ofOptions (o : ParseOptions) : Pipeline Markdown.Dialect :=
  let p := ofDialect o.dialect
  if o.supersub then p.addTreeTransform Document.splitSpans else p

/-- The reader of this library. -/
def reader : MarkdownReader Markdown.Dialect := fun dialect source =>
  ((Markdown.read dialect source).map Markdown.Flow.nodes).mapError Markdown.Fault.message

/-- Runs the pipeline. -/
def run (p : Pipeline Markdown.Dialect) (source : String) : Except ParseError Document :=
  p.runWith reader source

end Pipeline

/-- The document of a source. -/
def parseDocument (source : String) (o : ParseOptions) : Except ParseError Document :=
  (Pipeline.ofOptions o).run source

end Typeset
