/-
A passage: the text of one paragraph, heading or table cell.

The characters are those of the source with the margins of containing blocks
taken off its later lines. A margin is kept beside them, at the position where
it was cut, because a label that spans lines is compared as the source writes
it, and because markers look at their neighbours in the source. Places in the
source are lines and columns.
-/

namespace Typeset

/-- Line and column of a source, both counted from one. Columns count bytes, and a tab reaches to
the next column behind a multiple of four. -/
structure Location where
  line : Nat
  column : Nat
  deriving DecidableEq

namespace Location

/-- The start of a line. -/
def lineStart (line : Nat) : Location := ⟨line, 1⟩

instance : Inhabited Location := ⟨lineStart 1⟩

def display (l : Location) : String := toString l.line ++ ":" ++ toString l.column

/-- The location behind a character. -/
def next (l : Location) (c : Char) : Location :=
  if c == '\n' || c == '\r' then lineStart (l.line + 1)
  else if c == '\t' then ⟨l.line, l.column + (4 - (l.column - 1) % 4)⟩
  else ⟨l.line, l.column + c.utf8Size⟩

/-- The location behind characters; the two characters of one line ending count once. -/
def after (l : Location) : List Char → Location
  | [] => l
  | '\r' :: '\n' :: cs => after (l.next '\n') cs
  | c :: cs => after (l.next c) cs

end Location

namespace Markdown

/-- A line ending character. -/
def isEnding (c : Char) : Bool := c == '\n' || c == '\r'

/-- A space or a tab. -/
def isSpacing (c : Char) : Bool := c == ' ' || c == '\t'

/-- What containing blocks take from the start of a line. -/
structure Margin where
  chars : List Char := []
  /-- Whether the last character is a tab that is only partly taken: the line starts inside it. -/
  insideTab : Bool := false
  deriving Inhabited

/-- Where plain characters stand on a line. -/
inductive LineStart where
  | inside
  /-- At its start, in front of which the line may stand inside a tab. -/
  | fresh (insideTab : Bool)

structure Passage where
  chars : List Char
  /-- Where the first character stands in the source. -/
  origin : Location := default
  /-- The character of the source in front of the passage, unless a line starts there. -/
  before : Option Char := none
  /-- The character of the source behind the passage, unless a line ends there. -/
  after : Option Char := none
  /-- Whether the passage starts inside a tab. -/
  insideTab : Bool := false
  /-- Position of the first character after a margin, and the margin. -/
  margins : List (Nat × Margin) := []
  /-- Where the block ends whose text the passage is, if that is not the end of the passage. -/
  blockStop : Option Location := none
  deriving Inhabited

namespace Passage

/-- Characters with the margins put back before those that start a continued line. -/
def withMargins (margins : List (Nat × Margin)) : Nat → List Char → List Char
  | _, [] => []
  | pos, c :: cs =>
    ((margins.lookup pos).getD {}).chars ++ c :: withMargins margins (pos + 1) cs

/-- The source of the characters `cs`, which start at position `pos`. -/
def source (p : Passage) (pos : Nat) (cs : List Char) : List Char :=
  if p.margins.isEmpty then cs else withMargins p.margins pos cs

/-- Where the character at a position stands in the source. -/
def locate (p : Passage) (pos : Nat) : Location :=
  (p.origin.after (p.source 0 (p.chars.take pos))).after ((p.margins.lookup pos).getD {}).chars

/-- Where the block ends whose text the passage is. -/
def stop (p : Passage) : Location := p.blockStop.getD (p.locate p.chars.length)

/-- Whether the line that starts at a position starts inside a tab. -/
def startsInsideTab (p : Passage) (pos : Nat) : Bool :=
  if pos == 0 then p.insideTab else ((p.margins.lookup pos).getD {}).insideTab

/-- The character of the source in front of a position, where `previous` precedes it in the
passage. -/
def neighbour (p : Passage) (pos : Nat) : Option Char → Option Char
  | none => p.before
  | some c => if isEnding c then ((p.margins.lookup pos).getD {}).chars.getLast?.or (some c) else c

/-- The passage without its first `n` characters. -/
def drop (p : Passage) (n : Nat) : Passage :=
  if n == 0 then p
  else
    { p with
      chars := p.chars.drop n
      origin := p.locate n
      before := p.neighbour n p.chars[n - 1]?
      insideTab := p.startsInsideTab n
      margins := p.margins.filterMap fun (pos, m) => if n < pos then some (pos - n, m) else none }

end Passage

/-- What follows a line ending, with the ending as it is written. -/
def splitEnding? : List Char → Option (List Char × List Char)
  | '\r' :: '\n' :: rest => some (['\r', '\n'], rest)
  | '\n' :: rest => some (['\n'], rest)
  | '\r' :: rest => some (['\r'], rest)
  | _ => none

end Markdown

end Typeset
