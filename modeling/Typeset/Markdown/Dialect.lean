/-
Which constructs of Markdown a reader recognizes.

`commonMark` is the core language. The extensions are switched on one by one;
`expressions` is the variant in which tags and braces belong to a program and
raw HTML, autolinks and indented code do not exist.
-/

namespace Typeset.Markdown

structure Dialect where
  /-- A metadata block between fences at the very start. -/
  frontmatter : Bool
  /-- Fenced math and math between dollar signs. -/
  math : Bool
  /-- Addresses that link without angle brackets. -/
  autolinkLiteral : Bool
  footnote : Bool
  /-- Struck text between two tildes. -/
  strikethrough : Bool
  table : Bool
  /-- A check box at the start of a list item. -/
  taskItem : Bool
  /-- Raw HTML, in flow and in text. -/
  html : Bool
  /-- Code by four columns of indentation. -/
  indentedCode : Bool
  /-- Addresses between angle brackets. -/
  autolink : Bool
  /-- Tags and braced expressions of an embedded program. -/
  expression : Bool

namespace Dialect

/-- The core language without extensions. -/
def commonMark : Dialect where
  frontmatter := false
  math := false
  autolinkLiteral := false
  footnote := false
  strikethrough := false
  table := false
  taskItem := false
  html := true
  indentedCode := true
  autolink := true
  expression := false

/-- The core language with tags and expressions in place of HTML. -/
def expressions : Dialect :=
  { commonMark with html := false, indentedCode := false, autolink := false, expression := true }

/-- The dialect with the extensions that are switched together. -/
def extended (tablesAndNotes frontmatter math : Bool) : Dialect :=
  { commonMark with
    frontmatter, math
    autolinkLiteral := tablesAndNotes
    footnote := tablesAndNotes
    strikethrough := tablesAndNotes
    table := tablesAndNotes
    taskItem := tablesAndNotes }

end Dialect

end Typeset.Markdown
