/-
The JSON form of templates and their registry. Every field is required.
-/
import Typeset.Json
import Typeset.Template

namespace Typeset

namespace Template

def toJson (t : Template) : Json :=
  .obj [("id", .str t.id), ("path", .str t.path), ("entry", .str t.entry)]

def ofJson? (j : Json) : Option Template := do
  let fs ← j.record? ["id", "path", "entry"]
  return ⟨← fs.string? "id", ← fs.string? "path", ← fs.string? "entry"⟩

end Template

namespace TemplateRegistry

def toJson (r : TemplateRegistry) : Json :=
  .obj
    [("templates", .arr (r.templates.map Template.toJson)),
     ("defaultStyle", .str r.defaultStyle)]

def ofJson? (j : Json) : Option TemplateRegistry := do
  let fs ← j.record? ["templates", "defaultStyle"]
  let templates ← fs.read? "templates" (Json.listOf? Template.ofJson?)
  return ⟨templates, ← fs.string? "defaultStyle"⟩

end TemplateRegistry

end Typeset
