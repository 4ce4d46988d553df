/-
Lines of a source and columns on them.

A tab reaches to the next column that is a multiple of four. Where a construct
takes only part of a tab, the rest of it still counts as columns of white
space, but the tab is no part of what follows.
-/
import Typeset.Markdown.Passage

namespace Typeset.Markdown

/-- A line and its ending as written, which is empty at the end of the source. -/
structure Line where
  /-- A byte order mark in front of the text. -/
  mark : List Char := []
  text : List Char
  ending : List Char

namespace Line

/-- Cuts a source after each line ending. `taken` holds the line so far, last character first. -/
def splitFrom (taken : List Char) : List Char → List Line
  | [] => if taken.isEmpty then [] else [{ text := taken.reverse, ending := [] }]
  | '\r' :: '\n' :: cs => { text := taken.reverse, ending := ['\r', '\n'] } :: splitFrom [] cs
  | c :: cs =>
    if isEnding c then { text := taken.reverse, ending := [c] } :: splitFrom [] cs
    else splitFrom (c :: taken) cs

/-- The lines of a source; a byte order mark at its start is no text. -/
def split (cs : List Char) : List Line :=
  match cs with
  | '\uFEFF' :: rest =>
    match splitFrom [] rest with
    | l :: ls => { l with mark := ['\uFEFF'] } :: ls
    | [] => []
  | _ => splitFrom [] cs

/-- Whether the line ends in a carriage return and a line feed. -/
def endsInPair (l : Line) : Bool := l.ending == ['\r', '\n']

end Line

/-- The number of bytes that characters take. -/
def byteLength (cs : List Char) : Nat := cs.foldl (fun n c => n + c.utf8Size) 0

/-- The rest of a line, from a column on. -/
structure Cursor where
  /-- Counted in bytes, where a tab takes as many as it is wide. -/
  column : Nat
  /-- The columns that are already taken of the tab at the start of the rest. -/
  taken : Nat := 0
  rest : List Char

namespace Cursor

/-- The width of a tab that starts at a column. -/
def tabWidth (column : Nat) : Nat := 4 - column % 4

/-- Takes at most `n` columns of white space; answers how many it took. -/
def take (n column taken : Nat) : List Char → Nat × Cursor
  | ' ' :: cs =>
    match n with
    | 0 => (0, { column, rest := ' ' :: cs })
    | n + 1 => let (k, c) := take n (column + 1) 0 cs; (k + 1, c)
  | '\t' :: cs =>
    let left := tabWidth (column - taken) - taken
    if n == 0 then (0, { column, taken, rest := '\t' :: cs })
    else if left ≤ n then
      let (k, c) := take (n - left) (column + left) 0 cs
      (k + left, c)
    else (n, { column := column + n, taken := taken + n, rest := '\t' :: cs })
  | cs => (0, { column, rest := cs })

/-- The cursor behind at most `n` columns of white space, with their number. -/
def skip (c : Cursor) (n : Nat) : Nat × Cursor := take n c.column c.taken c.rest

/-- The cursor behind exactly `n` columns of white space. -/
def skipExactly? (c : Cursor) (n : Nat) : Option Cursor :=
  let (k, after) := c.skip n
  if k == n then some after else none

/-- Whether nothing but white space is left. -/
def isBlank (c : Cursor) : Bool := c.rest.all isSpacing

/-- The cursor behind characters that are not white space, in front of `rest`. -/
def advance (c : Cursor) (rest : List Char) : Cursor where
  column := c.column + byteLength (c.rest.take (c.rest.length - rest.length))
  rest

/-- The columns of white space ahead. -/
def indent (c : Cursor) : Nat := (c.skip (4 * c.rest.length + 4)).1

/-- The cursor behind all white space. -/
def unindent (c : Cursor) : Cursor := (c.skip (4 * c.rest.length + 4)).2

/-- Whether the cursor stands inside a tab. -/
def insideTab (c : Cursor) : Bool := c.taken != 0

/-- The characters ahead, without a tab that is partly taken. -/
def text (c : Cursor) : List Char := if c.insideTab then c.rest.tail else c.rest

/-- The length of what lies between two cursors. A tab counts as one character, or as one column
where its end is not taken; the rest of a tab counts as if the tab were four columns wide. -/
def span (first last : Cursor) : Nat :=
  (if first.insideTab then 4 - first.taken else 0)
    + (first.text.length - last.text.length) + (last.taken - 1)

end Cursor

end Typeset.Markdown
