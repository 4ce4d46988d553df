/-
Texts of several lines: indentation and joining.
-/

namespace Typeset.Text

/-- Characters with `margin` in front of every line, blank lines included. -/
def shift (margin : List Char) (cs : List Char) : List Char :=
  margin ++ cs.flatMap fun c => if c == '\n' then c :: margin else [c]

/-- The white space of an indentation level: two spaces for each. -/
def margin (level : Nat) : List Char := List.replicate (2 * level) ' '

/-- A text with every line moved to an indentation level. -/
def indent (level : Nat) (s : String) : String := String.ofList (shift (margin level) s.toList)

/-- Texts with a separator between each two. -/
def joinWith (separator : String) : List String → String
  | [] => ""
  | [s] => s
  | s :: rest => s ++ separator ++ joinWith separator rest

/-- Joins the texts that are there and not empty. -/
def joinNonEmpty (separator : String) (parts : List (Option String)) : String :=
  joinWith separator ((parts.filterMap id).filter (!·.isEmpty))

/-- A text repeated. -/
def replicate (n : Nat) (c : Char) : String := String.ofList (List.replicate n c)

end Typeset.Text
