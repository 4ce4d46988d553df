/-
The blocks of a source: the metadata it starts with, and what its lines form.
-/
import Typeset.Markdown.Blocks.Reader

namespace Typeset.Markdown.Blocks

/-- Whether a line is a metadata fence of three markers. -/
def isMetadataFence (marker : Char) (cs : List Char) : Bool :=
  match cs with
  | a :: b :: c :: rest => a == marker && b == marker && c == marker && rest.all isSpacing
  | _ => false

/-- The lines up to the fence that closes metadata, and those after it. -/
def splitMetadata? (marker : Char) : List Line → Option (List Line × List Line)
  | [] => none
  | l :: ls =>
    if isMetadataFence marker l.text then some ([], ls)
    else (splitMetadata? marker ls).map fun (value, rest) => (l :: value, rest)

/-- The marker of the fence with which a source starts. -/
def metadataMarker? (dialect : Dialect) (lines : List Line) : Option Char := do
  let text := (← lines.head?).text
  let marker ← text.head?
  if dialect.frontmatter && (marker == '-' || marker == '+') && isMetadataFence marker text then
    return marker
  else none

/-- The block of the metadata between two fences. -/
def metadata (marker : Char) (value : List Line) : Flow Passage :=
  let value := String.ofList (trimEnding (value.flatMap fun l => l.text ++ l.ending))
  if marker == '-' then .yaml value else .toml value

/-- The blocks of a source. Where metadata starts and never ends, no line has containers. -/
def read (dialect : Dialect) (source : List Char) : Except Fault (List (Flow Passage)) :=
  let lines := Line.split source
  let reader : Reader := { dialect, containers := true, root := [] }
  let (reader, rest) : Reader × List Line :=
    match metadataMarker? dialect lines with
    | none => (reader, lines)
    | some marker =>
      match splitMetadata? marker lines.tail with
      | none => ({ reader with containers := false }, lines)
      | some (value, rest) => ({ reader with root := [.block (metadata marker value)] }, rest)
  let number := lines.length - rest.length + 1
  (rest.foldl Reader.readLine { reader with number }).finish

end Typeset.Markdown.Blocks
