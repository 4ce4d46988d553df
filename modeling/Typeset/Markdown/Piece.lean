/-
Pieces: what a passage is read into before its phrases stand.

Plain characters, decoded text, line endings and marker runs keep their order.
`Piece.phrases` settles what is left of them: neighbouring characters join,
white space at line endings goes, two spaces there make a hard break, and mail
addresses become links.
-/
import Typeset.Markdown.Autolink
import Typeset.Markdown.Escaped
import Typeset.Markdown.Tree

namespace Typeset.Markdown

/-- A run of one marker that may open or close a span. -/
structure Run where
  marker : Char
  /-- The position of its first marker. -/
  position : Nat
  size : Nat
  opens : Bool
  closes : Bool

inductive Piece where
  /-- Plain characters, the last one first. -/
  | data (reversed : List Char)
  /-- Text that an escape or a reference stands for. -/
  | literal (value : String)
  /-- A line ending as it is written; `insideTab` tells that the next line starts inside a tab. -/
  | ending (written : List Char) (insideTab : Bool)
  | run (run : Run)
  /-- An image with the source of its destination. -/
  | image (destination : List Char) (alt : String)
  | phrase (phrase : Phrase)

namespace Piece

/-- A piece with its marker run, if it is one, as plain characters. -/
def settle : Piece → Piece
  | .run r => .data (List.replicate r.size r.marker)
  | p => p

/-- Neighbouring plain characters as one piece. -/
def join : List Piece → List Piece
  | [] => []
  | p :: ps =>
    match p.settle, join ps with
    | .data a, .data b :: rest => .data (b ++ a) :: rest
    | q, rest => q :: rest

/-- Characters, last one first, without the spaces and tabs that end them, and the break that two
spaces make before a line ending. -/
def trimLine (breaks : Bool) (reversed : List Char) : List Char × Bool :=
  let spacing := reversed.takeWhile isSpacing
  (reversed.drop spacing.length, breaks && 2 ≤ spacing.length && spacing.all (· == ' '))

/-- Characters, last one first, without the spaces and tabs that start a line in front of them.
Where the line starts inside a tab, the last of that tab and those stays. -/
def trimStart (reversed : List Char) : LineStart → List Char
  | .inside => reversed
  | .fresh insideTab =>
    let cs := reversed.reverse
    let content := cs.dropWhile isSpacing
    let spacing := cs.take (cs.length - content.length)
    if insideTab && !content.isEmpty then (spacing.getLast?.getD '\t' :: content).reverse
    else content.reverse

def isEndingPiece : Option Piece → Bool
  | some (.ending _ _) => true
  | _ => false

/-- Where what follows a piece stands. -/
def lineAfter : Piece → LineStart
  | .ending _ insideTab => .fresh insideTab
  | _ => .inside

/-- Trims joined pieces. `line` tells where the first piece stands, `whole` that the last one ends
the passage. -/
def trim (whole : Bool) (line : LineStart) : List Piece → List Piece
  | [] => []
  | .data cs :: ps =>
    let beforeEnding := isEndingPiece ps.head?
    let (cs, breaks) :=
      if beforeEnding || (whole && ps.isEmpty) then trimLine beforeEnding cs else (cs, false)
    let cs := trimStart cs line
    (if cs.isEmpty then [] else [.data cs])
      ++ (if breaks then [.phrase .hardBreak] else []) ++ trim whole .inside ps
  | p :: ps => p :: trim whole (lineAfter p) ps

/-- Joins plain characters with their mail addresses cut out as links. -/
def linkMail (cs : List Char) : List Piece :=
  (Autolink.cutMail [] 0 false cs).map fun
    | .plain cs => .data cs.reverse
    | .address url cs => .phrase (.link url [.text (String.ofList cs)])

/-- Whether text holds a mail address. -/
def holdsMail (cs : List Char) : Bool :=
  (Autolink.cutMail [] 0 false cs).any fun
    | .plain _ => false
    | .address _ _ => true

/-- The phrase of an image. Where mail addresses become links, a destination that holds one is taken
as it is written. -/
def imagePhrase (mail : Bool) (destination : List Char) (alt : String) : Phrase :=
  .image (if mail && holdsMail destination then String.ofList destination
    else Escaped.read destination) alt

/-- Text in front of phrases, as one phrase with the text that they may start with. -/
def consText (value : String) : List Phrase → List Phrase
  | .text rest :: ps => .text (value ++ rest) :: ps
  | ps => .text value :: ps

/-- The phrases of trimmed pieces. A line ending right after a break belongs to the break. -/
def toPhrases (afterBreak : Bool) : List Piece → List Phrase
  | [] => []
  | .data cs :: ps => consText (String.ofList cs.reverse) (toPhrases false ps)
  | .literal value :: ps => consText value (toPhrases false ps)
  | .ending written _ :: ps =>
    if afterBreak then toPhrases false ps
    else consText (String.ofList written) (toPhrases false ps)
  | .run _ :: ps | .image _ _ :: ps => toPhrases false ps
  | .phrase .hardBreak :: ps => .hardBreak :: toPhrases true ps
  | .phrase p :: ps => p :: toPhrases false ps

/-- Where pieces stand, for how they settle. -/
structure Setting where
  line : LineStart
  /-- The last of them ends the passage. -/
  endsPassage : Bool
  /-- Mail addresses become links. -/
  mail : Bool

/-- The phrases that pieces stand for once no marker run is left to match. -/
def phrases (setting : Setting) (pieces : List Piece) : List Phrase :=
  let settled := (trim setting.endsPassage setting.line (join pieces)).flatMap fun
    | .data cs => if setting.mail then linkMail cs.reverse else [.data cs]
    | .image destination alt => [.phrase (imagePhrase setting.mail destination alt)]
    | p => [p]
  toPhrases false settled

end Piece

end Typeset.Markdown
