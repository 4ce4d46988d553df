/-
Templates and the registry that maps styles to them.

A registry is passed to whoever needs it. A style that it does not know
resolves to its default style, and the built-in template stands in where even
that is missing.
-/
import Typeset.Template.Sources

namespace Typeset

/-- A template: its style, the path of its file and the function that it exports. -/
structure Template where
  id : String
  path : String
  entry : String
  deriving DecidableEq

structure TemplateRegistry where
  templates : List Template
  /-- Style used when the requested one is missing or unknown. -/
  defaultStyle : String
  deriving DecidableEq

namespace Template

/-- The template of a built-in article style. -/
def article (id : String) : Template := ⟨id, "styles/" ++ id ++ ".typ", "article"⟩

/-- The style used when none is requested. -/
def defaultStyle : String := "modern-tech"

/-- The template used when a registry cannot resolve even its default style. -/
def fallback : Template := article defaultStyle

/-- The source of a built-in template. -/
def bundledSource? (id : String) : Option String :=
  if id == "modern-tech" then some modernTech
  else if id == "classic-editorial" then some classicEditorial
  else none

end Template

namespace TemplateRegistry

/-- The registry of the built-in templates. -/
def builtin : TemplateRegistry :=
  ⟨[Template.article "modern-tech", Template.article "classic-editorial"], Template.defaultStyle⟩

/-- The first template of a style. -/
def get? (r : TemplateRegistry) (style : String) : Option Template :=
  r.templates.find? (·.id == style)

def supports (r : TemplateRegistry) (style : String) : Bool := (r.get? style).isSome

/-- The template of a requested style, or of the default style. -/
def resolve? (r : TemplateRegistry) (style : Option String) : Option Template :=
  (style.bind r.get?).or (r.get? r.defaultStyle)

/-- The template that a document of the style imports. -/
def resolve (r : TemplateRegistry) (style : Option String) : Template :=
  (r.resolve? style).getD Template.fallback

def paths (r : TemplateRegistry) : List String := r.templates.map (·.path)

end TemplateRegistry

end Typeset
