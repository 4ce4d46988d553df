/-
Whether the tags of an embedded program match.

Tags nest with the blocks and spans around them: what is opened inside a node
is closed inside it, by a tag of the same name. The text of a link is on its
own: nothing checks that its tags are closed. The first tag that breaks this
is the fault of the source.
-/
import Typeset.Markdown.Tree

namespace Typeset.Markdown.Balance

/-- What is open at some place. -/
inductive Opened where
  /-- A block or a span. -/
  | node (name : String) (start : Location)
  | tag

/-- What is open, the innermost first. -/
structure State where
  /-- In the text of a link, what is open inside it. -/
  opened : List Opened := []
  /-- The tags that nothing has closed. -/
  tags : List Tag := []
  /-- How far the source is read. -/
  place : Location := default

def mismatch (start : Location) (stop : Option Location) (reason : String) : Fault :=
  { start, stop, reason, rule := "end-tag-mismatch" }

/-- The fault of a tag that nothing closes, and the node that ends first. -/
def unclosed (t : Tag) (spot : Location) (node : Option String) : Fault :=
  mismatch spot none
    ("Expected a closing tag for `" ++ t.display ++ "` (" ++ t.start.display ++ ")"
      ++ match node with
        | some name => " before the end of `" ++ name ++ "`"
        | none => "")

/-- The fault of a tag that closes another one than the last. -/
def wrongName (t last : Tag) : Fault :=
  mismatch t.start (some t.stop)
    ("Unexpected closing tag `" ++ t.display ++ "`, expected corresponding closing tag for `"
      ++ last.display ++ "` (" ++ last.start.display ++ ")")

/-- The fault of a tag that closes one outside the node around it. -/
def outside (t : Tag) (name : String) (start : Location) : Fault :=
  mismatch t.start none
    ("Expected the closing tag `" ++ t.display ++ "` either before the start of `" ++ name ++ "` ("
      ++ start.display ++ "), or another opening tag after that start")

/-- The fault inside a closing tag. -/
def misplaced? (t : Tag) : Option Fault :=
  if !t.closing then none
  else match t.firstAttribute, t.slash with
    | some spot, _ => some
        { start := spot
          reason := "Unexpected attribute in closing tag, expected the end of the tag"
          rule := "unexpected-attribute" }
    | none, some spot => some
        { start := spot
          reason := "Unexpected self-closing slash `/` in closing tag, expected the end of the tag"
          rule := "unexpected-self-closing-slash" }
    | none, none => none

namespace State

/-- What is open after a tag. -/
def meet (s : State) (t : Tag) : Except Fault State :=
  if !t.closing then
    .ok (if t.selfClosing then s else { s with opened := .tag :: s.opened, tags := t :: s.tags })
  else match s.tags, misplaced? t with
    | [], _ => .error
        { start := t.start.next '<'
          reason := "Unexpected closing slash `/` in tag, expected an open tag first"
          rule := "unexpected-closing-slash" }
    | _ :: _, some fault => .error fault
    | last :: rest, none =>
      if last.name != t.name then .error (wrongName t last)
      else match s.opened with
        | .node name start :: _ => .error (outside t name start)
        | opened => .ok { s with opened := opened.tail, tags := rest }

/-- What is open inside a node. -/
def enter (s : State) (name : String) (start : Location) : State :=
  { s with opened := .node name start :: s.opened }

/-- What is open after the end of a node. -/
def leave (s : State) (name : String) (spot : Location) : Except Fault State :=
  match s.opened, s.tags with
  | .tag :: _, t :: _ => .error (unclosed t spot (some name))
  | opened, _ => .ok { s with opened := opened.tail }

end State

mutual

/-- What is open after a phrase of a passage. -/
def ofPhrase (p : Passage) (s : State) : Phrase → Except Fault State
  | .program (some t) => s.meet t
  | .emphasis span children => do
    (← ofPhrases p (s.enter "Emphasis" (p.locate span.start)) children).leave "Emphasis"
      (p.locate span.stop)
  | .strong span children => do
    (← ofPhrases p (s.enter "Strong" (p.locate span.start)) children).leave "Strong"
      (p.locate span.stop)
  | .strike children => ofPhrases p s children
  | .link _ children | .linkReference _ _ children => do
    return { ← ofPhrases p { s with opened := [] } children with opened := s.opened }
  | .program none | .text _ | .code _ | .math _ | .html _ | .hardBreak | .image _ _
  | .imageReference _ _ | .footnoteReference _ => .ok s

def ofPhrases (p : Passage) (s : State) : List Phrase → Except Fault State
  | [] => .ok s
  | q :: qs => do ofPhrases p (← ofPhrase p s q) qs

end

/-- What is open after a passage that is a node of its own if it has a name. -/
def ofPassage (read : Passage → List Phrase) (name : Option String) (s : State) (p : Passage) :
    Except Fault State := do
  match name with
  | some name =>
    let inside ← ofPhrases p (s.enter name p.origin) (read p)
    return { ← inside.leave name p.stop with place := p.stop }
  | none => return { ← ofPhrases p s (read p) with place := p.stop }

/-- What is open after the passages of a row. -/
def ofPassages (read : Passage → List Phrase) (s : State) : List Passage → Except Fault State
  | [] => .ok s
  | p :: ps => do ofPassages read (← ofPassage read (some "GfmTableCell") s p) ps

/-- What is open after the rows of a table. -/
def ofRows (read : Passage → List Phrase) (s : State) : List (List Passage) → Except Fault State
  | [] => .ok s
  | row :: rows => do ofRows read (← ofPassages read s row) rows

mutual

/-- What is open after a block. -/
def ofFlow (read : Passage → List Phrase) (s : State) : Flow Passage → Except Fault State
  | .paragraph p => ofPassage read (some "Paragraph") s p
  | .heading _ underlined p =>
    ofPassage read (some (if underlined then "HeadingSetext" else "HeadingAtx")) s p
  | .program p => ofPassage read none s p
  | .quote children => do
    let inside ← ofFlows read (s.enter "BlockQuote" s.place) children
    inside.leave "BlockQuote" inside.place
  | .footnoteDefinition _ children => do
    let inside ← ofFlows read (s.enter "GfmFootnoteDefinition" s.place) children
    inside.leave "GfmFootnoteDefinition" inside.place
  | .list _ items => ofItems read s items
  | .hidden children => ofFlows read s children
  | .table _ rows => ofRows read s rows
  | .yaml _ | .toml _ | .definition _ _ | .code _ _ | .thematicBreak | .math _ | .html => .ok s

def ofFlows (read : Passage → List Phrase) (s : State) : List (Flow Passage) → Except Fault State
  | [] => .ok s
  | b :: bs => do ofFlows read (← ofFlow read s b) bs

def ofItems (read : Passage → List Phrase) (s : State) :
    List (List (Flow Passage)) → Except Fault State
  | [] => .ok s
  | bs :: rest => do
    let inside ← ofFlows read (s.enter "ListItem" s.place) bs
    ofItems read (← inside.leave "ListItem" inside.place) rest

end

/-- The first tag that does not match, in a source that ends at a location. -/
def check (read : Passage → List Phrase) (stop : Location) (blocks : List (Flow Passage)) :
    Except Fault Unit := do
  let s ← ofFlows read {} blocks
  match s.opened, s.tags with
  | .tag :: _, t :: _ => throw (unclosed t stop none)
  | _, _ => return ()

end Typeset.Markdown.Balance
