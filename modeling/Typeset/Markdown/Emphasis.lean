/-
Emphasis, strong emphasis and struck text, from runs of markers.

A run opens or closes by the characters around it. Each closing run takes the
nearest opening run of its marker that fits it; the runs between the two stay
plain characters. Two markers on both sides make strong emphasis, one makes
emphasis, and tildes must be two on both sides.
-/
import Typeset.Markdown.Piece

namespace Typeset.Markdown

/-- What a neighbouring character is to a run. -/
inductive Neighbour where
  | blank
  | punctuation
  | other
  deriving DecidableEq

namespace Neighbour

/-- The edge of a passage counts as white space. -/
def of : Option Char → Neighbour
  | none => .blank
  | some c =>
    if Text.isBlank c then .blank else if Text.isPunctuation c then .punctuation else .other

end Neighbour

namespace Run

/-- Whether a character is a marker that others may be written around. -/
def isInnerMarker (struck : Bool) : Option Char → Bool
  | some c => c == '*' || c == '_' || (struck && c == '~')
  | none => false

/-- The run of `size` markers between two characters; `struck` tells that tildes are markers. -/
def between (struck : Bool) (marker : Char) (position size : Nat) (before after : Option Char) :
    Run :=
  let left := Neighbour.of before
  let right := Neighbour.of after
  let opens := right == .other || (right == .punctuation && left != .other)
    || (marker != '~' && isInnerMarker struck after)
  let closes := left == .other || (left == .punctuation && right != .other)
    || (marker != '~' && isInnerMarker struck before)
  if marker == '_' then
    { marker, position, size
      opens := opens && (left != .other || !closes)
      closes := closes && (right != .other || !opens) }
  else { marker, position, size, opens, closes }

/-- Whether an opening run fits a closing one. -/
def fits (opener closer : Run) : Bool :=
  opener.opens && opener.marker == closer.marker
    && !((opener.closes || closer.opens) && closer.size % 3 != 0
      && (opener.size + closer.size) % 3 == 0)
    && (closer.marker != '~' || (closer.size == opener.size && closer.size == 2))

/-- How many markers a pair of runs uses. -/
def used (opener closer : Run) : Nat := if 1 < opener.size && 1 < closer.size then 2 else 1

theorem used_pos (opener closer : Run) : 0 < used opener closer := by
  unfold used; split <;> omega

/-- What two runs and the text between them span when each gives `used` markers. -/
def span (opener closer : Run) (used : Nat) : Span where
  start := opener.position + opener.size - used
  stop := closer.position + used

/-- The phrase that a pair of runs makes of its content. -/
def wrap (opener closer : Run) (used : Nat) (children : List Phrase) : Phrase :=
  if closer.marker == '~' then .strike children
  else if used == 1 then .emphasis (span opener closer used) children
  else .strong (span opener closer used) children

/-- The piece that is left of an opening run, if anything is. -/
def restBefore (r : Run) (used : Nat) : List Piece :=
  if used < r.size then [.run { r with size := r.size - used }] else []

/-- The piece that is left of a closing run, if anything is. -/
def restAfter (r : Run) (used : Nat) : List Piece :=
  if used < r.size then
    [.run { r with position := r.position + used, size := r.size - used }]
  else []

end Run

namespace Emphasis

/-- The nearest run that fits the closing one among pieces in reverse order, with the pieces
after it in order and those before it in reverse. -/
def findOpener (closer : Run) (inside : List Piece) :
    List Piece → Option (Run × List Piece × List Piece)
  | [] => none
  | .run r :: before =>
    if r.fits closer then some (r, inside, before) else findOpener closer (.run r :: inside) before
  | p :: before => findOpener closer (p :: inside) before

/-- A bound on the steps that pieces still need. -/
def weight : List Piece → Nat
  | [] => 0
  | .run r :: ps => r.size + 1 + weight ps
  | _ :: ps => 1 + weight ps

theorem weight_append (ps qs : List Piece) : weight (ps ++ qs) = weight ps + weight qs := by
  induction ps with
  | nil => simp [weight]
  | cons p ps ih => cases p <;> simp [weight, ih] <;> omega

theorem weight_restAfter {r : Run} {n : Nat} (h : 0 < n) :
    weight (r.restAfter n) < r.size + 1 := by
  unfold Run.restAfter
  split <;> simp only [weight] <;> omega

/-- Matches the runs of the second list against the first, which holds the pieces before them in
reverse order. -/
def pair (setting : Piece.Setting) (before : List Piece) (pieces : List Piece) : List Piece :=
  match pieces with
  | [] => before.reverse
  | .run closer :: after =>
    if closer.closes then
      match findOpener closer [] before with
      | some (opener, inside, earlier) =>
        let used := opener.used closer
        let phrase := Run.wrap opener closer used (Piece.phrases setting inside)
        pair setting (.phrase phrase :: (opener.restBefore used ++ earlier))
          (closer.restAfter used ++ after)
      | none => pair setting (.run closer :: before) after
    else pair setting (.run closer :: before) after
  | p :: after => pair setting (p :: before) after
termination_by weight pieces
decreasing_by
  · have := weight_restAfter (r := closer) (Run.used_pos opener closer)
    simp only [weight_append, weight]
    omega
  · simp only [weight]; omega
  · simp only [weight]; omega
  · cases p <;> simp only [weight] <;> omega

/-- The phrases of pieces: their runs matched, the rest settled. -/
def phrases (setting : Piece.Setting) (pieces : List Piece) : List Phrase :=
  let inner : Piece.Setting := { setting with line := .inside, endsPassage := false }
  Piece.phrases setting (pair inner [] pieces)

end Emphasis

end Typeset.Markdown
