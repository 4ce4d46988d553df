/-
Phrasing content as Typst markup.

How a note reference expands is a parameter, since it needs whole blocks, and
so is the kind of steps that rendering takes, which need only be able to warn.
A node that is dropped renders to nothing.
-/
import Typeset.Markup.Escape
import Typeset.PlainText
import Typeset.Render.Logged
import Typeset.Text.Lines

namespace Typeset

/-- What a note reference expands to, if it is not dropped. -/
abbrev NoteExpander (m : Type → Type) := String → m (Option String)

namespace Markup

/-- A call of a function on a content block. -/
def call (function content : String) : String := "#" ++ function ++ "[" ++ content ++ "]"

/-- Code inside a line, its back quotes protected. -/
def inlineCode (value : String) : String :=
  "\x60" ++ String.ofList (value.toList.flatMap fun c => if c == '\x60' then ['\\', c] else [c])
    ++ "\x60"

/-- A formula inside a line. -/
def inlineMath (value : String) : String := "$" ++ Text.trimBlanks value ++ "$"

/-- An image. -/
def image (url : String) : String := "#image(" ++ quote url ++ ")"

/-- A link with its label. The URL stands for a blank label. -/
def link (url label : String) : String :=
  "#link(" ++ quote url ++ ")[" ++ (if Text.isBlankText label then escapeText url else label) ++ "]"

end Markup

variable {m : Type → Type} [Monad m] [MonadWarn m]

mutual

/-- The markup of an inline. A link reference without a definition leaves its text, or its label
where it has no text. -/
def Inline.render (refs : References) (note : NoteExpander m) : Inline → m (Option String)
  | .text value => return some (Markup.escapeText value)
  | .strong children => do return some ("*" ++ (← Inline.renderAll refs note children) ++ "*")
  | .emphasis children => do return some ("_" ++ (← Inline.renderAll refs note children) ++ "_")
  | .strike children => do
    return some (Markup.call "strike" (← Inline.renderAll refs note children))
  | .highlight children => do
    return some (Markup.call "highlight" (← Inline.renderAll refs note children))
  | .subscript children => do
    return some (Markup.call "sub" (← Inline.renderAll refs note children))
  | .superscript children => do
    return some (Markup.call "super" (← Inline.renderAll refs note children))
  | .inlineCode value => return some (Markup.inlineCode value)
  | .inlineMath value => return some (Markup.inlineMath value)
  | .link url children => do
    return some (Markup.link url (← Inline.renderAll refs note children))
  | .linkReference identifier label children => do
    let text ← Inline.renderAll refs note children
    match refs.url? identifier with
    | some url => return some (Markup.link url text)
    | none =>
      MonadWarn.warn (.unresolvedLink identifier)
      return some (if text.isEmpty then Markup.escapeText (literalLabel label identifier) else text)
  | .footnoteReference identifier => note identifier
  | .image url _ => return some (Markup.image url)
  | .lineBreak => return some "\\\n"

/-- The markup of a run of inlines. -/
def Inline.renderAll (refs : References) (note : NoteExpander m) : List Inline → m String
  | [] => return ""
  | i :: is => do
    let first ← i.render refs note
    let rest ← Inline.renderAll refs note is
    return first.getD "" ++ rest

end

end Typeset
