/-
Tags and braced expressions of an embedded program.

A tag has a name, attributes and values as in JSX, and may span lines. A name
may have members behind dots or a local part behind a colon. An expression
lasts to the brace that matches its first. Where a construct breaks off, reading
the source fails; only a tag that the source leaves unfinished is plain text,
if white space could follow there.
-/
import Typeset.Markdown.Passage
import Typeset.Text.Blank
import Typeset.Text.Punctuation

namespace Typeset.Markdown

/-- A tag in the source. A closing tag may wrongly have an attribute or a slash at its end. -/
structure Tag where
  /-- The whole name, empty for a fragment. -/
  name : String
  closing : Bool
  selfClosing : Bool
  start : Location
  stop : Location
  firstAttribute : Option Location
  slash : Option Location
  deriving Inhabited

/-- The tag without its attributes. -/
def Tag.display (t : Tag) : String := "<" ++ (if t.closing then "/" else "") ++ t.name ++ ">"

/-- Why a source with an embedded program cannot be read. -/
structure Fault where
  /-- Where the fault is, and the end of its place where that is more than a point. -/
  start : Location
  stop : Option Location := none
  reason : String
  /-- The rule that is broken. -/
  rule : String

namespace Program

/-- Where the reader stands inside a construct. -/
inductive Place where
  | opening
  | closingName
  | name
  | afterName
  | beforeMember
  | member
  | afterMember
  | beforeLocal
  | localName
  | afterLocal
  | beforeAttribute
  | attributeName
  | afterAttribute
  | beforeAttributeLocal
  | attributeLocal
  | afterAttributeLocal
  | beforeValue
  | quoted (quote : Char)
  /-- Inside braces, with the number of further braces that are open. -/
  | braces (depth : Nat)
  | selfClosing
  deriving DecidableEq

/-- Whether white space may come at a place. Where the source ends there, what is read is text. -/
def Place.isOpen : Place → Bool
  | .quoted _ | .braces _ => false
  | _ => true

/-- A character that may start a name. Outside ASCII, every character may but blanks and
punctuation. -/
def isNameStart (c : Char) : Bool :=
  c.isAlpha || c == '$' || c == '_'
    || (0x80 ≤ c.toNat && !Text.isBlank c && !Text.isPunctuation c)

/-- A character that may go on with a name. -/
def isNamePart (c : Char) : Bool := isNameStart c || c.isDigit || c == '-'

/-- A character that starts an attribute or ends the tag. -/
def isAfterName (c : Char) : Bool := c == '/' || c == '>' || c == '\x7b' || isNameStart c

/-- A character that ends a part of a name. -/
def endsName (c : Char) : Bool := Text.isBlank c || c == '/' || c == '>' || c == '\x7b'

/-- What one character does to the reader. -/
inductive Step where
  | go (place : Place)
  | done
  /-- This starts no tag. -/
  | refuse
  | crash
  deriving DecidableEq

/-- Before an attribute or the end of the tag. -/
def stepAttribute (c : Char) : Step :=
  if Text.isBlank c then .go .beforeAttribute
  else if c == '/' then .go .selfClosing
  else if c == '>' then .done
  else if c == '\x7b' then .go (.braces 0)
  else if isNameStart c then .go .attributeName
  else .crash

/-- Behind a name or a part of it: blanks, a mark that goes on with the name, or what follows
names. -/
def stepAfter (here : Place) (more : List (Char × Place)) (c : Char) : Step :=
  if Text.isBlank c then .go here
  else match more.lookup c with
    | some place => .go place
    | none => if isAfterName c then stepAttribute c else .crash

/-- Inside a part of a name. -/
def stepName (here after : Place) (more : List (Char × Place)) (c : Char) : Step :=
  if endsName c || (more.lookup c).isSome then stepAfter after more c
  else if isNamePart c then .go here
  else .crash

/-- Before a part of a name. -/
def stepBefore (here part : Place) (c : Char) : Step :=
  if Text.isBlank c then .go here else if isNameStart c then .go part else .crash

def afterPrimary : List (Char × Place) := [('.', .beforeMember), (':', .beforeLocal)]

def afterAttributeName : List (Char × Place) := [(':', .beforeAttributeLocal), ('=', .beforeValue)]

/-- Inside a tag. -/
def step : Place → Char → Step
  | .opening, c =>
    if c == ' ' || c == '\t' || c == '\n' || c == '\r' then .refuse
    else if c == '/' then .go .closingName
    else if c == '>' then .done
    else if isNameStart c then .go .name
    else .crash
  | .closingName, c => if c == '>' then .done else stepBefore .closingName .name c
  | .name, c => stepName .name .afterName afterPrimary c
  | .afterName, c => stepAfter .afterName afterPrimary c
  | .beforeMember, c => stepBefore .beforeMember .member c
  | .member, c => stepName .member .afterMember [('.', .beforeMember)] c
  | .afterMember, c => stepAfter .afterMember [('.', .beforeMember)] c
  | .beforeLocal, c => stepBefore .beforeLocal .localName c
  | .localName, c => stepName .localName .afterLocal [] c
  | .afterLocal, c => stepAfter .afterLocal [] c
  | .beforeAttribute, c => stepAttribute c
  | .attributeName, c => stepName .attributeName .afterAttribute afterAttributeName c
  | .afterAttribute, c => stepAfter .afterAttribute afterAttributeName c
  | .beforeAttributeLocal, c => stepBefore .beforeAttributeLocal .attributeLocal c
  | .attributeLocal, c => stepName .attributeLocal .afterAttributeLocal [('=', .beforeValue)] c
  | .afterAttributeLocal, c => stepAfter .afterAttributeLocal [('=', .beforeValue)] c
  | .beforeValue, c =>
    if Text.isBlank c then .go .beforeValue
    else if c == '\"' || c == '\'' then .go (.quoted c)
    else if c == '\x7b' then .go (.braces 0)
    else .crash
  | .quoted quote, c => if c == quote then .go .beforeAttribute else .go (.quoted quote)
  | .braces depth, c =>
    if c == '\x7b' then .go (.braces (depth + 1))
    else if c == '\x7d' then
      match depth with
      | 0 => .go .beforeAttribute
      | depth + 1 => .go (.braces depth)
    else .go (.braces depth)
  | .selfClosing, c =>
    if Text.isBlank c then .go .selfClosing else if c == '>' then .done else .crash

/-! ## What is shown when a construct breaks off -/

/-- The code point of a character in hexadecimal, with four digits at least. -/
def codePoint (c : Char) : String :=
  let digits := (Nat.toDigits 16 c.toNat).map Char.toUpper
  "U+" ++ String.ofList (List.replicate (4 - digits.length) '0' ++ digits)

/-- What stands where something else was expected. -/
def found : Option Char → String
  | none => "end of file"
  | some c =>
    if c == '\x60' then "character `` ` `` (" ++ codePoint c ++ ")"
    else if '!' ≤ c && c ≤ '~' then
      "character `" ++ c.toString ++ "` (" ++ codePoint c ++ ")"
    else "character " ++ codePoint c

def canStartName : String := "a character that can start a name, such as a letter, `$`, or `_`"

def canStartAttribute : String :=
  "a character that can start an attribute name, such as a letter, `$`, or `_`"

def orEnd : String := "; whitespace before attributes; or the end of the tag"

def orValue : String := "; `=` to initialize a value; or the end of the tag"

def inName : String := "a name character such as letters, digits, `$`, or `_`" ++ orEnd

def inAttributeName : String :=
  "an attribute name character such as letters, digits, `$`, or `_`"
    ++ "; `=` to initialize a value" ++ orEnd

/-- A remark for some characters. -/
def remark (cs : List Char) (text : String) (c : Option Char) : String :=
  if c.any cs.contains then " (note: " ++ text ++ ")" else ""

def remarkComment : Option Char → String :=
  remark ['*', '/'] "JS comments in JSX tags are not supported in MDX"

def remarkLink (cs : List Char) : Option Char → String :=
  remark cs "to create a link in MDX, use `[text](url)`"

/-- Where the reader stands and what may come, in front of a character. -/
def Place.expectation (c : Option Char) : Place → String × String
  | .opening =>
    ("before name", canStartName
      ++ remark ['!'] "to create a comment in MDX, use `\x7b/* text */\x7d`" c)
  | .closingName => ("before name", canStartName ++ remarkComment c)
  | .name => ("in name", inName ++ remarkLink ['@'] c)
  | .afterName => ("after name", canStartAttribute ++ orEnd)
  | .beforeMember => ("before member name", canStartAttribute ++ orEnd)
  | .member => ("in member name", inName ++ remarkLink ['@'] c)
  | .afterMember => ("after member name", canStartAttribute ++ orEnd)
  | .beforeLocal => ("before local name", canStartName ++ remarkLink ['+', '/'] c)
  | .localName => ("in local name", inName)
  | .afterLocal => ("after local name", canStartAttribute ++ orEnd)
  | .beforeAttribute => ("before attribute name", canStartAttribute ++ orEnd)
  | .attributeName => ("in attribute name", inAttributeName)
  | .afterAttribute => ("after attribute name", canStartAttribute ++ orValue)
  | .beforeAttributeLocal => ("before local attribute name", canStartAttribute ++ orValue)
  | .attributeLocal => ("in local attribute name", inAttributeName)
  | .afterAttributeLocal => ("after local attribute name", canStartAttribute ++ orValue)
  | .beforeValue =>
    ("before attribute value",
      "a character that can start an attribute value, such as `\"`, `'`, or `\x7b`"
        ++ remark ['<']
          "to use an element or fragment as a prop value in MDX, use `\x7b<element />\x7d`" c)
  | .quoted quote =>
    ("in attribute value", "a corresponding closing quote `" ++ quote.toString ++ "`")
  | .braces _ => ("in expression", "a corresponding closing brace for `\x7b`")
  | .selfClosing => ("after self-closing slash", "`>` to end the tag" ++ remarkComment c)

/-- The fault of a construct that breaks off in front of a character, or at the end. -/
def fault (place : Place) (spot : Location) (c : Option Char) : Fault :=
  let (position, expected) := place.expectation c
  { start := spot
    reason := "Unexpected " ++ found c ++ " " ++ position ++ ", expected " ++ expected
    rule := if c.isNone then "unexpected-eof" else "unexpected-character" }

/-- The fault of a line inside a construct that lacks the marks of its containers. -/
def lazyFault (place : Place) (spot : Location) : Fault where
  start := spot
  reason := "Unexpected lazy line " ++ (match place with
      | .braces _ => "in expression "
      | _ => "")
    ++ "in container, expected line to be prefixed with `>` when in a block quote, "
    ++ "whitespace when in a list, etc"
  rule := "unexpected-lazy"

/-! ## Reading constructs -/

/-- A tag as far as it is read, with positions in its characters. -/
structure Draft where
  /-- The name so far, last character first. -/
  name : List Char := []
  closing : Bool := false
  selfClosing : Bool := false
  firstAttribute : Option Nat := none
  slash : Option Nat := none

namespace Draft

/-- The draft after the character at a position has led from one place to another. -/
def push (d : Draft) (position : Nat) (c : Char) : Place → Place → Draft
  | .opening, .closingName => { d with closing := true }
  | _, .name | _, .member | _, .localName => { d with name := c :: d.name }
  | .beforeMember, .beforeMember | .beforeLocal, .beforeLocal => d
  | _, .beforeMember | _, .beforeLocal => { d with name := c :: d.name }
  | .attributeName, .attributeName | .quoted _, .beforeAttribute => d
  | .beforeValue, _ | .braces _, _ | .selfClosing, _ => d
  | _, .attributeName => { d with firstAttribute := d.firstAttribute.or (some position) }
  | _, .braces _ => { d with firstAttribute := d.firstAttribute.or (some position) }
  | _, .selfClosing => { d with selfClosing := true, slash := some position }
  | _, _ => d

end Draft

/-- What a reader of constructs comes to. -/
inductive Scan where
  /-- A tag, and the position behind it. -/
  | tag (draft : Draft) (stop : Nat)
  /-- An expression, and the position behind it. -/
  | expression (stop : Nat)
  | refused
  /-- The construct breaks off at a position, in front of a character or at the end. -/
  | broken (place : Place) (position : Nat) (c : Option Char)

/-- Reads a tag from a position on. -/
def scanTag (d : Draft) (place : Place) (position : Nat) : List Char → Scan
  | [] => .broken place position none
  | c :: cs =>
    match step place c with
    | .go next => scanTag (d.push position c place next) next (position + 1) cs
    | .done => .tag d (position + 1)
    | .refuse => .refused
    | .crash => .broken place position (some c)

/-- Reads an expression from a position on, inside `depth` further braces. -/
def scanBraces (depth position : Nat) : List Char → Scan
  | [] => .broken (.braces depth) position none
  | c :: cs =>
    if c == '\x7b' then scanBraces (depth + 1) (position + 1) cs
    else if c == '\x7d' then
      match depth with
      | 0 => .expression (position + 1)
      | depth + 1 => scanBraces depth (position + 1) cs
    else scanBraces depth (position + 1) cs

/-- The construct that starts with the first of the characters, which stands at a position. -/
def scan (position : Nat) : List Char → Scan
  | '<' :: cs => scanTag {} .opening (position + 1) cs
  | '\x7b' :: cs => scanBraces 0 (position + 1) cs
  | _ => .refused

/-- The tag of a draft that stands between two positions of a passage. -/
def Draft.tag (d : Draft) (p : Passage) (start stop : Nat) : Tag where
  name := String.ofList d.name.reverse
  closing := d.closing
  selfClosing := d.selfClosing
  start := p.locate start
  stop := p.locate stop
  firstAttribute := d.firstAttribute.map p.locate
  slash := d.slash.map p.locate

/-- What lines that start with a construct are. -/
inductive FlowScan where
  /-- They are text after all. -/
  | text
  /-- They are constructs and nothing else, or break off. -/
  | whole
  /-- A construct goes on behind them. -/
  | more (place : Place)

/-- Reads lines that may hold constructs and nothing else. -/
def scanFlow (cs : List Char) : FlowScan :=
  match scan 0 cs with
  | .broken place _ none => .more place
  | .broken _ _ (some _) => .whole
  | .refused => .text
  | .tag _ stop | .expression stop =>
    match (cs.drop stop).dropWhile isSpacing with
    | [] => .whole
    | c :: left =>
      if (c == '<' || c == '\x7b') && left.length + 1 < cs.length then scanFlow (c :: left)
      else .text
termination_by cs.length
decreasing_by
  all_goals simp_all

/-- Whether the end of the source makes text of lines that start with a construct. -/
def breaksOff (cs : List Char) : Bool :=
  match scanFlow cs with
  | .more place => place.isOpen
  | .text | .whole => false

end Program

end Typeset.Markdown
