/-
From a document to a Typst file.

The file imports the template of the requested style and holds the root blocks
that render to something, blank lines between them. Rendering never fails:
what it drops or replaces is listed beside the file.
-/
import Typeset.Markup.Header
import Typeset.Pipeline
import Typeset.Render.Footnote

namespace Typeset

/-- A file with the metadata that it carries and the warnings that arose. -/
structure Rendering where
  typst : String
  title : String
  authors : List String
  lang : Lang
  warnings : List Warning

/-- The warning about a style that no template has. -/
def TemplateRegistry.styleWarning (r : TemplateRegistry) (style : Option String) : Logged Unit :=
  match style with
  | some style => if r.supports style then pure () else Logged.warn (.unknownStyle style)
  | none => pure ()

namespace Document

/-- The root blocks that make the body. -/
def bodyBlocks (d : Document) (m : Metadata) : List Block :=
  match m.excluded with
  | some index => d.children.eraseIdx index
  | none => d.children

/-- The body of the file. -/
def renderBody (d : Document) (refs : References) (m : Metadata) : Logged String := do
  let parts ← Block.renderAll refs (expandNote refs []) 0 (d.bodyBlocks m)
  return Text.joinNonEmpty "\n\n" parts

/-- Renders a document with the templates of a registry. -/
def renderWith (d : Document) (o : Options) (r : TemplateRegistry) : Rendering :=
  let refs := References.ofBlocks d.children
  let m := Metadata.resolve d o refs
  let body := do
    r.styleWarning o.style
    d.renderBody refs m
  { typst := Markup.assemble (r.resolve o.style) m body.value
    title := m.title
    authors := m.authors
    lang := m.lang
    warnings := body.warnings }

/-- The file that the built-in templates give. -/
def render (d : Document) (o : Options) : String := (d.renderWith o .builtin).typst

end Document

/-- The file of a Markdown source. -/
def renderMarkdown (source : String) (o : Options) : Except ParseError String :=
  (parseDocument source {}).map (·.render o)

end Typeset
