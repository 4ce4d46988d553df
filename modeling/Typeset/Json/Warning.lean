/-
The JSON form of a rendering and of the warnings in it.

Both are written and never read, but what is written still tells them apart.
-/
import Typeset.Json.Document
import Typeset.Json.Options
import Typeset.Render

namespace Typeset

namespace Warning

/-- The kind under `type`, and the name that the warning is about. -/
def toJson : Warning → Json
  | .unresolvedFootnote identifier =>
    .node "unresolvedFootnote" [("identifier", .str identifier)]
  | .recursiveFootnote identifier => .node "recursiveFootnote" [("identifier", .str identifier)]
  | .unresolvedLink identifier => .node "unresolvedLink" [("identifier", .str identifier)]
  | .unknownStyle style => .node "unknownStyle" [("style", .str style)]

theorem eq_of_toJson {w w' : Warning} (h : w.toJson = w'.toJson) : w = w' := by
  cases w <;> cases w' <;> simp_all [toJson, Json.node]

end Warning

namespace Rendering

def toJson (r : Rendering) : Json :=
  .obj
    [("typst", .str r.typst), ("title", .str r.title), ("authors", .ofStrings r.authors),
     ("lang", r.lang.toJson), ("warnings", .arr (r.warnings.map Warning.toJson))]

/-- **Nothing of a rendering is lost**: no two are written alike. -/
theorem eq_of_toJson {r r' : Rendering} (h : r.toJson = r'.toJson) : r = r' := by
  obtain ⟨typst, title, authors, lang, warnings⟩ := r
  obtain ⟨typst', title', authors', lang', warnings'⟩ := r'
  simp only [toJson, Json.ofStrings, Json.obj.injEq, List.cons.injEq, Prod.mk.injEq, true_and,
    and_true, Json.str.injEq, Json.arr.injEq] at h
  obtain ⟨rfl, rfl, hauthors, hlang, hwarnings⟩ := h
  obtain rfl := (List.map_inj_right fun _ _ => Json.str.inj).1 hauthors
  obtain rfl := Lang.eq_of_toJson hlang
  obtain rfl := (List.map_inj_right fun _ _ => Warning.eq_of_toJson).1 hwarnings
  rfl

end Rendering

end Typeset
