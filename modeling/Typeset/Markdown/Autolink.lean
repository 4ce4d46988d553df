/-
Addresses that become links.

Between angle brackets stands a URI with a scheme or a mail address. Without
brackets, text that starts with `www.` or a web protocol is a link up to white
space, less the punctuation that trails it, and a mail address is found by the
at sign in its middle.
-/
import Typeset.Text.Blank
import Typeset.Text.Punctuation
import Typeset.Markdown.Passage

namespace Typeset.Markdown.Autolink

/-! ## Between angle brackets -/

/-- A character of a scheme after its first letter. -/
def isSchemePart (c : Char) : Bool := c.isAlphanum || c == '+' || c == '-' || c == '.'

/-- The longest scheme. -/
def schemeLimit : Nat := 32

/-- A character that no URI between angle brackets holds. -/
def endsUri (c : Char) : Bool := c.toNat ≤ 0x20 || c == '<' || c.toNat == 0x7F

/-- The rest of a URI up to the closing bracket. -/
def uriRest (taken : List Char) : List Char → Option (List Char × List Char)
  | [] => none
  | c :: cs =>
    if c == '>' then some (taken.reverse, cs)
    else if endsUri c then none
    else uriRest (c :: taken) cs

/-- A URI with its scheme, and what follows the closing bracket. -/
def uri? : List Char → Option (List Char × List Char)
  | [] => none
  | c :: cs =>
    let scheme := cs.takeWhile isSchemePart
    match cs.drop scheme.length with
    | ':' :: rest =>
      if c.isAlpha && 1 ≤ scheme.length && scheme.length < schemeLimit then
        uriRest (':' :: scheme.reverse ++ [c]) rest
      else none
    | _ => none

/-- A character before the at sign of a mail address. -/
def isMailPart (c : Char) : Bool :=
  let n := c.toNat
  (0x23 ≤ n && n ≤ 0x27) || c == '*' || c == '+' || (0x2D ≤ n && n ≤ 0x39) || c == '='
    || c == '?' || c.isUpper || (0x5E ≤ n && n ≤ 0x7E)

/-- The longest part of a domain between dots. -/
def domainPartLimit : Nat := 63

/-- The domain of a mail address up to the closing bracket; `size` counts the characters since the
last dot and `dash` tells whether the last one is a dash. -/
def mailDomain (size : Nat) (dash : Bool) (taken : List Char) :
    List Char → Option (List Char × List Char)
  | [] => none
  | c :: cs =>
    if size != 0 && !dash && c == '.' then mailDomain 0 false (c :: taken) cs
    else if size != 0 && !dash && c == '>' then some (taken.reverse, cs)
    else if c.isAlphanum && size < domainPartLimit then mailDomain (size + 1) false (c :: taken) cs
    else if c == '-' && size != 0 && size < domainPartLimit then
      mailDomain (size + 1) true (c :: taken) cs
    else none

/-- A mail address, and what follows the closing bracket. -/
def mail? (cs : List Char) : Option (List Char × List Char) :=
  let name := cs.takeWhile isMailPart
  match cs.drop name.length with
  | '@' :: rest => if name.isEmpty then none else mailDomain 0 false ('@' :: name.reverse) rest
  | _ => none

/-! ## Without brackets -/

/-- Punctuation that may trail an address without being part of it. -/
def isTrailing (c : Char) : Bool :=
  ['!', '\"', '\'', ')', '*', ',', '.', ':', ';', '?', '_', '~'].contains c

/-- Where the test for trailing punctuation stands. -/
inductive Trail where
  | plain
  | ampersand
  | reference
  | bracket

/-- Whether only punctuation and character references stand before white space, a tag, or a bracket
that could go on as a link. `blank` tells that white space follows the last character. -/
def trails (blank : Bool) : Trail → List Char → Bool
  | .plain, [] => blank
  | .bracket, [] => true
  | .ampersand, [] | .reference, [] => false
  | .ampersand, c :: cs => c.isAlpha && trails blank .reference cs
  | .reference, c :: cs =>
    if c.isAlpha then trails blank .reference cs else c == ';' && trails blank .plain cs
  | .bracket, c :: cs =>
    isSpacing c || isEnding c || c == '(' || c == '[' || plain c cs
  | .plain, c :: cs => plain c cs
where
  /-- One character of the punctuation. -/
  plain (c : Char) (cs : List Char) : Bool :=
    if isTrailing c then trails blank .plain cs
    else if c == '&' then trails blank .ampersand cs
    else if c == '<' then true
    else if c == ']' then trails blank .bracket cs
    else Text.isBlank c

/-- The number of characters in a path; `opened` and `closed` count its parentheses. -/
def pathLength (blank : Bool) (opened closed : Nat) : List Char → Nat
  | [] => 0
  | c :: cs =>
    if c == '(' then 1 + pathLength blank (opened + 1) closed cs
    else if isTrailing c || c == '&' || c == '<' || c == ']' then
      if trails blank .plain (c :: cs) && !(c == ')' && closed < opened) then 0
      else 1 + pathLength blank opened (if c == ')' then closed + 1 else closed) cs
    else if Text.isBlank c then 0
    else 1 + pathLength blank opened closed cs

/-- The length of a domain with the path behind it. The last two parts of the domain hold no
underscore, and it has a character that is neither white space nor punctuation. -/
def domainLength? (blank seen last secondLast : Bool) : List Char → Option Nat
  | [] => if seen && !last && !secondLast then some 0 else none
  | c :: cs =>
    let stop :=
      if seen && !last && !secondLast then some (pathLength blank 0 0 (c :: cs)) else none
    if c == '.' || c == '_' then
      if trails blank .plain (c :: cs) then stop
      else if c == '_' then (domainLength? blank seen true secondLast cs).map (· + 1)
      else (domainLength? blank seen false last cs).map (· + 1)
    else if c == '-' then (domainLength? blank seen last secondLast cs).map (· + 1)
    else if Text.isBlank c || Text.isPunctuation c then stop
    else (domainLength? blank true last secondLast cs).map (· + 1)

/-- A character that may stand before `www.`. -/
def precedesWww : Option Char → Bool
  | none => true
  | some c => isSpacing c || isEnding c || ['(', '*', '_', '[', ']', '~'].contains c

/-- The length of an address that starts with `www.`. -/
def www? (blank : Bool) (before : Option Char) (cs : List Char) : Option Nat :=
  match cs with
  | a :: b :: c :: '.' :: rest =>
    if precedesWww before && [a, b, c].all (fun x => x == 'w' || x == 'W') && !rest.isEmpty then
      domainLength? blank false false false cs
    else none
  | _ => none

/-- The length of an address that starts with a web protocol. -/
def web? (blank : Bool) (before : Option Char) (cs : List Char) : Option Nat :=
  let protocol := cs.takeWhile Char.isAlpha
  let name := String.ofList (protocol.map Char.toLower)
  match cs.drop protocol.length with
  | ':' :: '/' :: '/' :: rest =>
    if !before.any Char.isAlpha && (name == "http" || name == "https") then
      (domainLength? blank false false false rest).map (· + (protocol.length + 3))
    else none
  | _ => none

/-! ## Mail addresses in text -/

/-- A character before the at sign of a mail address in text. -/
def isLocalPart (c : Char) : Bool :=
  c.isAlphanum || c == '+' || c == '-' || c == '.' || c == '_'

/-- The length of a domain; `slash` allows a resource behind it. -/
def mailDomainLength (slash : Bool) : List Char → Nat
  | [] => 0
  | c :: cs =>
    if c.isAlphanum || c == '-' || c == '_' || (slash && c == '/')
        || (c == '.' && cs.head?.any Char.isAlphanum) then
      1 + mailDomainLength slash cs
    else 0

/-- The domain at the start: it has a dot that goes on, and its last character is a letter. -/
def mailDomain? (slash : Bool) (cs : List Char) : Option (List Char) :=
  let domain := cs.take (mailDomainLength slash cs)
  if domain.contains '.' && domain.getLast?.any Char.isAlpha then some domain else none

/-- What stands before an at sign, last character first: the part of the address, what precedes it,
and the scheme with its colon if one does. -/
def mailStart? (before : List Char) : Option (List Char × List Char × Option String) :=
  let name := before.takeWhile isLocalPart
  let rest := before.drop name.length
  if name.isEmpty || rest.head? == some '/' then none
  else match rest with
    | ':' :: more =>
      let scheme := more.takeWhile Char.isAlphanum
      let word := String.ofList (scheme.reverse.map Char.toLower)
      if word == "mailto" || word == "xmpp" then
        some (name ++ ':' :: scheme, more.drop scheme.length, some word)
      else some (name, rest, none)
    | _ => some (name, rest, none)

/-- Text cut at the mail addresses in it: plain pieces, and addresses with their URLs. -/
inductive Cut where
  | plain (cs : List Char)
  | address (url : String) (cs : List Char)

/-- The plain piece that `before` holds in reverse, if it is not empty. -/
def Cut.ofBefore (before : List Char) : List Cut :=
  if before.isEmpty then [] else [.plain before.reverse]

/-- Cuts the last list at its mail addresses. `before` is what precedes it since the last cut, last
character first; `skip` counts the characters that an address has already taken, and `after`
tells whether the next one directly follows an address, where no at sign counts. -/
def cutMail (before : List Char) (skip : Nat) (after : Bool) : List Char → List Cut
  | [] => Cut.ofBefore before
  | c :: cs =>
    if skip != 0 then cutMail [] (skip - 1) true cs
    else
      let found := do
        if c != '@' || after then none
        else
          let (address, rest, scheme) ← mailStart? before
          let domain ← mailDomain? (scheme == some "xmpp") cs
          return (address.reverse ++ '@' :: domain, rest, scheme, domain.length)
      match found with
      | some (address, rest, scheme, n) =>
        let written := String.ofList address
        let url := if scheme.isSome then written else "mailto:" ++ written
        Cut.ofBefore rest ++ .address url address :: cutMail [] n true cs
      | none => cutMail (c :: before) 0 false cs

end Typeset.Markdown.Autolink
