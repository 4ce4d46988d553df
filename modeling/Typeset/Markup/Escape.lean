/-
Writing user text into Typst markup.

Prose protects the characters that start constructs of markup with a
backslash. A string literal stands between double quotes and protects
backslashes, quotes and line feeds.
-/

namespace Typeset.Markup

/-- A character that prose protects. -/
def isSpecial (c : Char) : Bool :=
  c == '\\' || c == '#' || c == '*' || c == '_' || c == '\x60' || c == '[' || c == ']' || c == '$'

/-- One character of prose. -/
def escapeChar (c : Char) : List Char := if isSpecial c then ['\\', c] else [c]

/-- Prose that shows as the text. -/
def escapeText (s : String) : String := String.ofList (s.toList.flatMap escapeChar)

theorem escapeText_empty : escapeText "" = "" := rfl

theorem escapeText_append (s t : String) : escapeText (s ++ t) = escapeText s ++ escapeText t := by
  simp only [escapeText, String.toList_append, List.flatMap_append, String.ofList_append]

/-- One character of a string literal. -/
def literalChar (c : Char) : List Char :=
  if c == '\\' then ['\\', '\\']
  else if c == '\"' then ['\\', '\"']
  else if c == '\n' then ['\\', 'n']
  else [c]

/-- The inside of a string literal. -/
def escapeString (s : String) : String := String.ofList (s.toList.flatMap literalChar)

/-- The string literal of a text. -/
def quote (s : String) : String := "\"" ++ escapeString s ++ "\""

end Typeset.Markup
