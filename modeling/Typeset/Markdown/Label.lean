/-
Labels: the text between brackets that names a definition.

Two labels match when their keys are equal. A key has its white space
collapsed and its letters mapped to capitals by way of small ones. The gap
between the first two words vanishes when the label starts with a word, and is
one space when white space precedes it.
-/
import Typeset.Text.Case
import Typeset.Markdown.Passage

namespace Typeset.Markdown.Label

/-- White space between the words of a label. -/
def isGap (c : Char) : Bool := isSpacing c || isEnding c

/-- Words with one space between them; the second takes none when `flush` is set. -/
def joinWords : Bool → List (List Char) → List Char
  | _, [] => []
  | _, [w] => w
  | flush, w :: ws => w ++ (if flush then [] else [' ']) ++ joinWords false ws

/-- The words of a label. -/
def words (cs : List Char) : List (List Char) :=
  (cs.splitOnP isGap).filter (!·.isEmpty)

/-- White space collapsed by the rule for the first gap. -/
def collapse (cs : List Char) : List Char :=
  joinWords (cs.head?.any (!isGap ·)) (words cs)

/-- The form in which labels are compared. -/
def key (cs : List Char) : String :=
  Text.uppercase (Text.lowercase (String.ofList (collapse cs)))

/-- The form in which a label is kept as an identifier. -/
def identifier (cs : List Char) : String :=
  Text.lowercase (key cs)

end Typeset.Markdown.Label
