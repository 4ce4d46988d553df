/-
Phrases of a passage.

The passage is read once from left to right. A closing bracket looks for what
makes its opening bracket a link, an image, a reference or a note; brackets
that nothing closes stay plain characters, and so do those around a link that
already holds one. Spans of emphasis are matched inside each bracket pair.
-/
import Typeset.Markdown.Dialect
import Typeset.Markdown.Emphasis
import Typeset.Markdown.Escaped
import Typeset.Markdown.Label
import Typeset.Markdown.Link
import Typeset.Markdown.RawHtml

namespace Typeset.Markdown

/-- Identifiers of the definitions that a document holds anywhere. -/
structure Definitions where
  links : List String
  notes : List String

namespace Phrasing

/-- What an opening bracket may start. -/
inductive Opener where
  | link
  | image
  | note
  deriving DecidableEq

def Opener.written : Opener → List Char
  | .link => ['[']
  | .image => ['!', '[']
  | .note => ['[', '^']

/-- An opening bracket that nothing has closed yet. -/
structure Bracket where
  opener : Opener
  /-- Position of the character after the bracket. -/
  position : Nat
  /-- The passage from there on. -/
  inside : List Char
  /-- Whether it may still start a link: not around a link that is already there. -/
  active : Bool
  /-- The pieces before it, the last one first. -/
  outer : List Piece

/-- The pieces of a bracket that is a plain character after all, with the pieces before it. -/
def Bracket.flatten (b : Bracket) (pieces : List Piece) : List Piece :=
  pieces ++ .data b.opener.written.reverse :: b.outer

/-- What has been read: the open brackets, the innermost first, and the pieces since then, the last
one first. -/
structure State where
  brackets : List Bracket
  pieces : List Piece
  /-- Where an embedded program broke off; nothing is read behind that. -/
  fault : Option Fault := none

/-- What a reader of phrases knows. -/
structure Scope where
  dialect : Dialect
  definitions : Definitions
  passage : Passage
  /-- Whether the passage is a table cell, where a backslash protects a pipe even in code. -/
  inTable : Bool

/-- A state with what one construct has added, and the number of further characters that the
construct has taken. -/
abbrev Outcome := State × Nat

namespace State

def push (s : State) (p : Piece) : State := { s with pieces := p :: s.pieces }

/-- Adds one plain character. -/
def pushChar (s : State) (c : Char) : State :=
  match s.pieces with
  | .data cs :: ps => { s with pieces := .data (c :: cs) :: ps }
  | ps => { s with pieces := .data [c] :: ps }

def phrase (s : State) (p : Phrase) : State := s.push (.phrase p)

/-- Opens a bracket in front of the characters `inside`. -/
def openBracket (s : State) (opener : Opener) (position : Nat) (inside : List Char) : State :=
  { brackets := { opener, position, inside, active := true, outer := s.pieces } :: s.brackets
    pieces := [] }

/-- All pieces in order, with the brackets that stayed open as plain characters. -/
def settle (s : State) : List Piece :=
  (s.brackets.foldl (fun pieces b => b.flatten pieces) s.pieces).reverse

end State

/-! ## Code and math -/

/-- The content up to a run of exactly `size` markers, and what follows the run. `run` counts the
markers just read and `taken` holds the content before them, the last character first. -/
def rawUntil (marker : Char) (size : Nat) (run : Nat) (taken : List Char) :
    List Char → Option (List Char × List Char)
  | [] => if run == size then some (taken.reverse, []) else none
  | c :: cs =>
    if c == marker then rawUntil marker size (run + 1) taken cs
    else if run == size then some (taken.reverse, c :: cs)
    else rawUntil marker size 0 (c :: (List.replicate run marker ++ taken)) cs

/-- Content without one space at both ends, if both have one and something else is between. -/
def unpad (cs : List Char) : List Char :=
  match cs with
  | ' ' :: rest =>
    if 2 < cs.length && cs.getLast? == some ' ' && rest.any (· != ' ') then rest.dropLast else cs
  | _ => cs

/-- A backslash in front of a pipe is dropped. -/
def unescapePipes : List Char → List Char
  | '\\' :: '|' :: cs => '|' :: unescapePipes cs
  | c :: cs => c :: unescapePipes cs
  | [] => []

/-- Code or math between runs of a marker. -/
def raw? (scope : Scope) (marker : Char) (cs : List Char) : Option (Phrase × Nat) := do
  let opening := cs.takeWhile (· == marker)
  let rest := cs.drop opening.length
  let (content, after) ← rawUntil marker (opening.length + 1) 0 [] rest
  let content := if scope.inTable then unescapePipes content else content
  let value := String.ofList (unpad content)
  return (if marker == '$' then .math value else .code value, cs.length - after.length)

/-! ## Brackets -/

/-- What a bracket pair turned out to be. -/
inductive Target where
  | resource (destination : List Char)
  | reference (identifier : String) (label : Option String)

/-- The piece of a bracket pair with its target. The caret of a note without definition shows, but
alone it makes no label. -/
def Target.piece (scope : Scope) (opener : Opener) (pieces : List Piece) (target : Target) :
    Piece :=
  let linked := opener != .image
  let inner := Emphasis.phrases
    { line := .inside, endsPassage := false
      mail := scope.dialect.autolinkLiteral && !linked } pieces.reverse
  let children := if opener == .note then Piece.consText "^" inner else inner
  let plain := if inner.isEmpty then "" else Phrase.plainAll children
  match target, opener with
  | .resource destination, .image => .image destination plain
  | .resource destination, _ => .phrase (.link (Escaped.read destination) children)
  | .reference identifier _, .image => .phrase (.imageReference identifier plain)
  | .reference identifier label, _ =>
    .phrase (.linkReference identifier (label.getD plain) children)

/-- The target of a bracket pair, by its identifier and what follows the closing bracket, with the
number of characters that the target takes. A bracket that follows either holds the label of a
reference, or nothing at all where the pair has an identifier of its own. -/
def target? (scope : Scope) (identifier : String) (position : Nat) (after : List Char) :
    Option (Target × Nat) :=
  let shortcut :=
    if scope.definitions.links.contains identifier then
      some (Target.reference identifier none, 0)
    else none
  match after with
  | '(' :: _ =>
    match Link.resource? after with
    | some (destination, rest) => some (.resource destination, after.length - rest.length)
    | none => shortcut
  | '[' :: ']' :: _ => shortcut.map fun (target, _) => (target, 2)
  | '[' :: _ => do
    let (label, rest) ← Link.label? after
    let identifier := Label.identifier (scope.passage.source (position + 1) label)
    if scope.definitions.links.contains identifier then
      let label := Escaped.readIn scope.passage (position + 1) label
      return (.reference identifier (some label), after.length - rest.length)
    else none
  | _ => shortcut

/-- Reads the closing bracket at `position`; `after` follows it. -/
def closeBracket (scope : Scope) (s : State) (position : Nat) (after : List Char) : Outcome :=
  match s.brackets with
  | [] => (s.pushChar ']', 0)
  | b :: outer =>
    let refused : State := { brackets := outer, pieces := b.flatten s.pieces }
    if !b.active then (refused.pushChar ']', 0)
    else
      let label := b.inside.take (position - b.position)
      let key := Label.key (scope.passage.source b.position label)
      if b.opener == .note && scope.definitions.notes.contains (Text.lowercase key) then
        let closed : State := { brackets := outer.map deactivate, pieces := b.outer }
        (closed.phrase (.footnoteReference (Text.lowercase key)), 0)
      else
        let key := if b.opener == .note then "^" ++ key else key
        match target? scope (Text.lowercase key) (position + 1) after with
        | some (target, taken) =>
          let brackets := if b.opener == .image then outer else outer.map deactivate
          let closed : State := { brackets, pieces := b.outer }
          (closed.push (target.piece scope b.opener s.pieces), taken)
        | none => (refused.pushChar ']', 0)
where
  /-- A bracket around a link cannot start one; it can still start an image. -/
  deactivate (b : Bracket) : Bracket :=
    if b.opener == .image then b else { b with active := false }

/-! ## One character -/

/-- A link that shows its own address. -/
def selfLink (url : String) (written : List Char) : Phrase :=
  .link url [.text (String.ofList written)]

/-- What starts at an opening angle bracket. -/
def angle? (dialect : Dialect) (cs : List Char) : Option (Phrase × List Char) :=
  let autolink :=
    if dialect.autolink then
      match Autolink.uri? cs with
      | some (written, rest) => some (selfLink (String.ofList written) written, rest)
      | none => (Autolink.mail? cs).map fun (written, rest) =>
          (selfLink ("mailto:" ++ String.ofList written) written, rest)
    else none
  match autolink with
  | some found => some found
  | none =>
    if dialect.html then
      (RawHtml.inText? ('<' :: cs)).map fun rest =>
        (.html (String.ofList (RawHtml.kept ('<' :: cs))), rest)
    else none

/-- The address that starts at a letter. `blank` tells that white space follows the passage. -/
def literal? (blank : Bool) (before : Option Char) (cs : List Char) : Option (Phrase × Nat) :=
  match Autolink.www? blank before cs with
  | some n =>
    let written := cs.take n
    some (selfLink ("http://" ++ String.ofList written) written, n)
  | none => (Autolink.web? blank before cs).map fun n =>
      let written := cs.take n
      (selfLink (String.ofList written) written, n)

def isMarker (dialect : Dialect) (c : Char) : Bool :=
  c == '*' || c == '_' || (dialect.strikethrough && c == '~')

def isRawMarker (dialect : Dialect) (c : Char) : Bool :=
  c == '\x60' || (dialect.math && c == '$')

def isLiteralPiece : Option Piece → Bool
  | some (.literal _) => true
  | _ => false

/-- A construct of an embedded program at `position`, or the character there. -/
def program (scope : Scope) (s : State) (position : Nat) (c : Char) (cs : List Char) : Outcome :=
  match Program.scan position (c :: cs) with
  | .tag draft stop =>
    (s.phrase (.program (some (draft.tag scope.passage position stop))), stop - position - 1)
  | .expression stop => (s.phrase (.program none), stop - position - 1)
  | .refused => (s.pushChar c, 0)
  | .broken place stop found =>
    if found.isNone && place.isOpen then (s.pushChar c, 0)
    else
      ({ s with fault := some (Program.fault place (scope.passage.locate stop) found) }, cs.length)

/-- Reads `c` at `position`, between the character `previous` in front of it and the characters `cs`
behind it. -/
def step (scope : Scope) (s : State) (previous : Option Char) (position : Nat) (c : Char)
    (cs : List Char) : Outcome :=
  let dialect := scope.dialect
  let plain : Outcome := (s.pushChar c, 0)
  if isEnding c then
    match splitEnding? (c :: cs) with
    | some (written, _) =>
      let insideTab := scope.passage.startsInsideTab (position + written.length)
      (s.push (.ending written insideTab), written.length - 1)
    | none => plain
  else if c == '\\' then
    match cs with
    | d :: _ =>
      if Text.isAsciiPunctuation d then (s.push (.literal (String.singleton d)), 1)
      else if isEnding d then (s.phrase .hardBreak, 0)
      else plain
    | [] => plain
  else if c == '&' then
    match Entity.read? cs with
    | some (value, rest) => (s.push (.literal value), cs.length - rest.length)
    | none => plain
  else if isMarker dialect c then
    let more := cs.takeWhile (· == c)
    let before := scope.passage.neighbour position previous
    let after := (cs.drop more.length).head?.or scope.passage.after
    let run := Run.between dialect.strikethrough c position (more.length + 1) before after
    (s.push (.run run), more.length)
  else if isRawMarker dialect c then
    if previous == some c && !isLiteralPiece s.pieces.head? then plain
    else match raw? scope c cs with
      | some (phrase, n) => (s.phrase phrase, n)
      | none => plain
  else if dialect.expression && (c == '<' || c == '\x7b') then program scope s position c cs
  else if c == '<' then
    match angle? dialect cs with
    | some (phrase, rest) => (s.phrase phrase, cs.length - rest.length)
    | none => plain
  else if c == '!' then
    match cs with
    | '[' :: inside =>
      if dialect.footnote && inside.head? == some '^' then plain
      else (s.openBracket .image (position + 2) inside, 1)
    | _ => plain
  else if c == '[' then
    match cs with
    | '^' :: inside =>
      if dialect.footnote then (s.openBracket .note (position + 2) inside, 1)
      else (s.openBracket .link (position + 1) cs, 0)
    | _ => (s.openBracket .link (position + 1) cs, 0)
  else if c == ']' then closeBracket scope s position cs
  else if dialect.autolinkLiteral && (c == 'h' || c == 'H' || c == 'w' || c == 'W') then
    let blank := scope.passage.after.all Text.isBlank
    match literal? blank previous (c :: cs) with
    | some (phrase, n) => (s.phrase phrase, n - 1)
    | none => plain
  else plain

/-- Reads the rest of a passage from `position` on. -/
def readFrom (scope : Scope) (s : State) (previous : Option Char) (position : Nat) :
    List Char → State
  | [] => s
  | c :: cs =>
    let (s, n) := step scope s previous position c cs
    readFrom scope s (if n == 0 then some c else cs[n - 1]?) (position + n + 1) (cs.drop n)
termination_by cs => cs.length

/-- Reads a passage behind its first `skipped` characters. -/
def readAll (scope : Scope) (skipped : Nat) : State :=
  let previous := if skipped == 0 then none else scope.passage.chars[skipped - 1]?
  readFrom scope { brackets := [], pieces := [] } previous skipped
    (scope.passage.chars.drop skipped)

/-- The phrases of a passage behind its first `skipped` characters. -/
def read (dialect : Dialect) (definitions : Definitions) (inTable : Bool) (skipped : Nat)
    (passage : Passage) : List Phrase :=
  Emphasis.phrases
    { line := if skipped == 0 then .fresh passage.insideTab else .inside
      endsPassage := true, mail := dialect.autolinkLiteral }
    (readAll { dialect, definitions, passage, inTable } skipped).settle

/-- Where an embedded program breaks off in a passage. -/
def fault? (dialect : Dialect) (definitions : Definitions) (passage : Passage) : Option Fault :=
  (readAll { dialect, definitions, passage, inTable := false } 0).fault

end Phrasing

end Typeset.Markdown
