/-
The JSON form of the options of a conversion.

Every field may be missing or null, and all four are written.
-/
import Typeset.Json
import Typeset.Metadata

namespace Typeset

namespace Lang

def toJson (l : Lang) : Json := .str l.tag

theorem eq_of_toJson {l l' : Lang} (h : l.toJson = l'.toJson) : l = l' := by
  have htag : l.tag = l'.tag := Json.str.inj h
  cases l <;> cases l' <;> first | rfl | exact absurd htag (by decide)

def ofName? : String → Option Lang
  | "zh" => some .zh
  | "en" => some .en
  | _ => none

def ofJson? (j : Json) : Option Lang :=
  match j.choice? with
  | some (name, .null) => ofName? name
  | _ => none

end Lang

namespace Options

def toJson (o : Options) : Json :=
  .obj
    [("title", .ofOption .str o.title),
     ("authors", .ofOption .ofStrings o.authors),
     ("style", .ofOption .str o.style),
     ("lang", .ofOption Lang.toJson o.lang)]

def ofJson? (j : Json) : Option Options := do
  let fs ← j.record? ["title", "authors", "style", "lang"]
  return {
    title := ← Json.optional? Json.string? (fs.get? "title")
    authors := ← Json.optional? Json.strings? (fs.get? "authors")
    style := ← Json.optional? Json.string? (fs.get? "style")
    lang := ← Json.optional? Lang.ofJson? (fs.get? "lang") }

end Options

end Typeset
