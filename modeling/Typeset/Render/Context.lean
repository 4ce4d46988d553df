/-
A rendering in progress: what references look up, the notes that are being
expanded and the warnings so far.
-/
import Typeset.Render.Footnote

namespace Typeset

structure Context where
  references : References := {}
  /-- The lower-case identifiers of the notes being expanded, the outermost first. -/
  opened : List String := []
  /-- What was dropped or replaced, in order. -/
  warnings : List Warning := []

namespace Context

/-- Starts to expand a note, unless it is being expanded already. -/
def enter? (c : Context) (key : String) : Option Context :=
  if key ∈ c.opened then none else some { c with opened := c.opened ++ [key] }

/-- Leaves the innermost note. -/
def exit (c : Context) : Context := { c with opened := c.opened.dropLast }

def warn (c : Context) (w : Warning) : Context := { c with warnings := c.warnings ++ [w] }

/-- The value of a step, whose warnings are kept. -/
def record {α : Type} (c : Context) (x : Logged α) : α × Context :=
  (x.value, { c with warnings := c.warnings ++ x.warnings })

/-- How note references expand here. -/
def expander (c : Context) : NoteExpander Logged := expandNote c.references c.opened

def renderInline (c : Context) (node : Inline) : Option String × Context :=
  c.record (node.render c.references c.expander)

def renderInlines (c : Context) (nodes : List Inline) : String × Context :=
  c.record (Inline.renderAll c.references c.expander nodes)

def renderBlock (c : Context) (block : Block) (level : Nat) : Option String × Context :=
  c.record (block.render c.references c.expander level)

end Context

end Typeset
