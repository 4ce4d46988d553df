/-
The head of an emitted file: the import of the template and the show rule that
applies it with the metadata. The body follows after a blank line.
-/
import Typeset.Markup.Escape
import Typeset.Metadata
import Typeset.Template
import Typeset.Text.Lines

namespace Typeset.Markup

/-- The line that imports a template. The path stands as it is. -/
def importLine (t : Template) : String := "#import \"" ++ t.path ++ "\": " ++ t.entry

/-- An array of written values. A comma keeps a single value from reading as one in
parentheses. -/
def array : List String → String
  | [item] => "(" ++ item ++ ",)"
  | items => "(" ++ Text.joinWith ", " items ++ ")"

/-- The arguments that carry metadata; an empty title and an empty author list are left out. -/
def arguments (m : Metadata) : List String :=
  (if m.title.isEmpty then [] else ["title: " ++ quote m.title])
    ++ (if m.authors.isEmpty then [] else ["authors: " ++ array (m.authors.map quote)])
    ++ ["lang: " ++ quote m.lang.tag]

/-- The rule that applies a template to the body. -/
def showRule (t : Template) (m : Metadata) : String :=
  "#show: " ++ t.entry ++ ".with(" ++ Text.joinWith ", " (arguments m) ++ ")"

/-- A whole file. -/
def assemble (t : Template) (m : Metadata) (body : String) : String :=
  importLine t ++ "\n\n" ++ showRule t m ++ "\n\n" ++ body ++ "\n"

end Typeset.Markup
