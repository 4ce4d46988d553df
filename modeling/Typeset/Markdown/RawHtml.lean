/-
Raw HTML: tags, comments, declarations, instructions and CDATA.

In text a construct is read to its closing angle bracket and may span lines.
In flow it is known by how its first line starts, and its kind says which line
ends it.
-/
import Typeset.Markdown.Passage

namespace Typeset.Markdown.RawHtml

/-- Where the reader stands inside a construct. -/
inductive Place where
  | opening
  | declarationOpening
  | commentOpening
  | comment
  | commentDash
  | commentDashes
  /-- The characters of the CDATA keyword still to come. -/
  | cdataOpening (left : List Char)
  | cdata
  | cdataBracket
  | cdataBrackets
  | declaration
  | instruction
  | instructionMark
  | closingStart
  | closingName
  | closingEnd
  | name
  | between
  | attribute
  | afterAttribute
  | beforeValue
  | quoted (quote : Char)
  | bare
  | afterQuoted
  /-- Only the closing angle bracket may come. -/
  | last

/-- What one character does to the reader. -/
inductive Step where
  | go (place : Place)
  | done
  | refuse

def isNameStart (c : Char) : Bool := c.isAlpha
def isNamePart (c : Char) : Bool := c.isAlphanum || c == '-'
def isGap (c : Char) : Bool := isSpacing c || isEnding c
def isAttributeStart (c : Char) : Bool := c.isAlpha || c == ':' || c == '_'
def isAttributePart (c : Char) : Bool :=
  c.isAlphanum || c == ':' || c == '_' || c == '-' || c == '.'

/-- The end of a construct. -/
def stepLast (c : Char) : Step := if c == '>' then .done else .refuse

/-- Between the attributes of an opening tag. -/
def stepBetween (c : Char) : Step :=
  if isGap c then .go .between
  else if c == '/' then .go .last
  else if isAttributeStart c then .go .attribute
  else stepLast c

/-- After the name of an attribute. -/
def stepAfterAttribute (c : Char) : Step :=
  if isGap c then .go .afterAttribute
  else if c == '=' then .go .beforeValue
  else stepBetween c

/-- After the two dashes that may end a comment. -/
def stepDashes (c : Char) : Step :=
  if c == '>' then .done else if c == '-' then .go .commentDashes else .go .comment

/-- One character of a construct. -/
def step (c : Char) : Place → Step
  | .opening =>
    if c == '!' then .go .declarationOpening
    else if c == '/' then .go .closingStart
    else if c == '?' then .go .instruction
    else if isNameStart c then .go .name
    else .refuse
  | .declarationOpening =>
    if c == '-' then .go .commentOpening
    else if c == '[' then .go (.cdataOpening ['C', 'D', 'A', 'T', 'A', '['])
    else if isNameStart c then .go .declaration
    else .refuse
  | .commentOpening => if c == '-' then .go .commentDashes else .refuse
  | .comment => if c == '-' then .go .commentDash else .go .comment
  | .commentDash => if c == '-' then .go .commentDashes else .go .comment
  | .commentDashes => stepDashes c
  | .cdataOpening [] => .go .cdata
  | .cdataOpening [d] => if c == d then .go .cdata else .refuse
  | .cdataOpening (d :: ds) => if c == d then .go (.cdataOpening ds) else .refuse
  | .cdata => if c == ']' then .go .cdataBracket else .go .cdata
  | .cdataBracket => if c == ']' then .go .cdataBrackets else .go .cdata
  | .cdataBrackets =>
    if c == '>' then .done else if c == ']' then .go .cdataBrackets else .go .cdata
  | .declaration => if c == '>' then .done else .go .declaration
  | .instruction => if c == '?' then .go .instructionMark else .go .instruction
  | .instructionMark =>
    if c == '>' then .done else if c == '?' then .go .instructionMark else .go .instruction
  | .closingStart => if isNameStart c then .go .closingName else .refuse
  | .closingName =>
    if isNamePart c then .go .closingName
    else if isGap c then .go .closingEnd
    else stepLast c
  | .closingEnd => if isGap c then .go .closingEnd else stepLast c
  | .name =>
    if isNamePart c then .go .name
    else if isGap c || c == '/' || c == '>' then stepBetween c
    else .refuse
  | .between => stepBetween c
  | .attribute => if isAttributePart c then .go .attribute else stepAfterAttribute c
  | .afterAttribute => stepAfterAttribute c
  | .beforeValue =>
    if c == '<' || c == '=' || c == '>' || c == '\x60' then .refuse
    else if isGap c then .go .beforeValue
    else if c == '\"' || c == '\'' then .go (.quoted c)
    else .go .bare
  | .quoted quote => if c == quote then .go .afterQuoted else .go (.quoted quote)
  | .bare =>
    if c == '\"' || c == '\'' || c == '<' || c == '=' || c == '\x60' then .refuse
    else if isGap c || c == '/' || c == '>' then stepBetween c
    else .go .bare
  | .afterQuoted => if isGap c || c == '/' || c == '>' then stepBetween c else .refuse
  | .last => stepLast c

/-- What follows the construct in which the reader stands. -/
def finish (place : Place) : List Char → Option (List Char)
  | [] => none
  | c :: cs =>
    match step c place with
    | .go next => finish next cs
    | .done => some cs
    | .refuse => none

/-- What follows a construct in text. -/
def inText? : List Char → Option (List Char)
  | '<' :: cs => finish .opening cs
  | _ => none

/-- A construct as it is kept: white space that follows a line ending in a tag is dropped. `fresh`
is set after a line ending. -/
def keepFrom (fresh : Bool) (place : Place) : List Char → List Char
  | [] => []
  | c :: cs =>
    match step c place with
    | .go next =>
      let rest := keepFrom (isEnding c || (fresh && isSpacing c)) next cs
      if fresh && isSpacing c then rest else c :: rest
    | .done | .refuse => [c]

/-- The construct `cs`, which starts with an angle bracket, as it is kept. -/
def kept : List Char → List Char
  | '<' :: cs => '<' :: keepFrom false .opening cs
  | cs => cs

/-- Whether a construct goes on where the characters end. -/
def runsOn (place : Place) : List Char → Bool
  | [] => true
  | c :: cs =>
    match step c place with
    | .go next => runsOn next cs
    | .done | .refuse => false

/-- The kinds of raw HTML in flow, by what ends them. -/
inductive Kind where
  /-- Up to the closing tag of an element with raw text. -/
  | rawText
  | comment
  | instruction
  | declaration
  | cdata
  /-- Up to a blank line: a tag of a block element. -/
  | element
  /-- Up to a blank line: any other tag that stands alone on its line. -/
  | loneTag
  deriving DecidableEq

/-- Elements whose content is not markup. -/
def rawTextNames : List String := ["pre", "script", "style", "textarea"]

/-- Block elements. -/
def elementNames : List String :=
  ["address", "article", "aside", "base", "basefont", "blockquote", "body", "caption", "center",
   "col", "colgroup", "dd", "details", "dialog", "dir", "div", "dl", "dt", "fieldset",
   "figcaption", "figure", "footer", "form", "frame", "frameset", "h1", "h2", "h3", "h4", "h5",
   "h6", "head", "header", "hr", "html", "iframe", "legend", "li", "link", "main", "menu",
   "menuitem", "nav", "noframes", "ol", "optgroup", "option", "p", "param", "search", "section",
   "summary", "table", "tbody", "td", "tfoot", "th", "thead", "title", "tr", "track", "ul"]

/-- The name at the start, in small letters, and what follows it. -/
def tagName (cs : List Char) : String × List Char :=
  let name := cs.takeWhile isNamePart
  (String.ofList (name.map Char.toLower), cs.drop name.length)

/-- Whether a tag takes the whole line, read on from a place in it. -/
def standsAlone (place : Place) (cs : List Char) : Bool :=
  match finish place cs with
  | some rest => rest.all isSpacing
  | none => false

/-- Whether the name of a tag ends in front of `rest`. -/
def endsName (rest : List Char) : Bool :=
  rest.head?.all fun d => isSpacing d || d == '/' || d == '>'

/-- The kind of the tag with a name and what follows the name. Every tag but one of a block element
may be read as if it were a closing one. -/
def tagKind? (interrupts closing : Bool) (name : String) (rest : List Char) : Option Kind :=
  let slash := rest.head? == some '/'
  if !endsName rest then none
  else if !slash && !closing && rawTextNames.contains name then some .rawText
  else if elementNames.contains name then
    if slash && (rest.drop 1).head? != some '>' then none else some .element
  else if !interrupts && standsAlone (if closing then .closingName else .name) rest then
    some .loneTag
  else none

/-- The kind of the construct that a line starts, with what of the line may hold its end.
A lone tag does not interrupt a paragraph. `closing` tells that all tags count as closing ones. -/
def start? (interrupts closing : Bool) : List Char → Option (Kind × List Char)
  | '<' :: '!' :: '-' :: '-' :: cs => some (.comment, '-' :: '-' :: cs)
  | '<' :: '!' :: '[' :: 'C' :: 'D' :: 'A' :: 'T' :: 'A' :: '[' :: cs => some (.cdata, cs)
  | '<' :: '!' :: c :: cs => if isNameStart c then some (.declaration, cs) else none
  | '<' :: '?' :: cs => some (.instruction, '?' :: cs)
  | '<' :: '/' :: c :: cs =>
    let (name, rest) := tagName (c :: cs)
    if isNameStart c then (tagKind? interrupts true name rest).map fun kind => (kind, rest)
    else none
  | '<' :: c :: cs =>
    let (name, rest) := tagName (c :: cs)
    if isNameStart c then (tagKind? interrupts closing name rest).map fun kind => (kind, rest)
    else none
  | _ => none

/-- Whether a closing tag breaks off. The tag of a block element may end in a slash. -/
def closingBreaksOff (cs : List Char) : Bool :=
  runsOn .closingStart cs
    || let (name, rest) := tagName cs
      elementNames.contains name && rest == ['/']

/-- Whether a line breaks off inside a construct that it could start. `closing` tells that all tags
count as closing ones. -/
def breaksOff (closing : Bool) : List Char → Bool
  | '<' :: '/' :: cs => closingBreaksOff cs
  | '<' :: c :: cs =>
    if closing && isNameStart c then closingBreaksOff (c :: cs) else runsOn .opening (c :: cs)
  | ['<'] => true
  | _ => false

/-- Whether a line starts with a tag, closing or not. -/
def startsTag : List Char → Bool
  | '<' :: c :: _ => isNameStart c || c == '/'
  | _ => false

/-- Whether the closing tag of an element with raw text starts here. -/
def closesRawText (cs : List Char) : Bool :=
  match cs with
  | '<' :: '/' :: rest =>
    let name := rest.takeWhile Char.isAlpha
    rawTextNames.contains (String.ofList (name.map Char.toLower))
      && (rest.drop name.length).head? == some '>'
  | _ => false

/-- Whether `p` holds of some end of a line. -/
def anyEnd (p : List Char → Bool) : List Char → Bool
  | [] => p []
  | c :: cs => p (c :: cs) || anyEnd p cs

/-- Whether CDATA ends in a line. -/
def endsCdata : List Char → Bool
  | ']' :: ']' :: '>' :: _ => true
  | ']' :: ']' :: cs => endsCdata cs
  | _ :: cs => endsCdata cs
  | [] => false

/-- Whether a line, or the rest of a first line, holds the end of a construct. -/
def Kind.endsIn (kind : Kind) (cs : List Char) : Bool :=
  match kind with
  | .rawText => anyEnd closesRawText cs
  | .comment => anyEnd (['-', '-', '>'].isPrefixOf ·) cs
  | .instruction => anyEnd (['?', '>'].isPrefixOf ·) cs
  | .declaration => cs.contains '>'
  | .cdata => endsCdata cs
  | .element | .loneTag => false

/-- Whether a blank line ends the construct. -/
def Kind.endsAtBlank : Kind → Bool
  | .element | .loneTag => true
  | _ => false

end Typeset.Markdown.RawHtml
