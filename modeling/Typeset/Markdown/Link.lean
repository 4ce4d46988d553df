/-
The parts of links and definitions: gaps, labels, destinations and titles.

Each reader takes the characters from where the part may start and answers
what follows the part, with its contents where they matter. A destination
between angle brackets may hold spaces; a bare one ends at a space and holds
balanced parentheses up to a limit.
-/
import Typeset.Markdown.Passage

namespace Typeset.Markdown.Link

/-- What follows spaces and tabs. -/
def skipSpacing (cs : List Char) : List Char := cs.dropWhile isSpacing

/-- What follows white space with at most one line ending, if there is any. -/
def skipGap? (cs : List Char) : Option (List Char) :=
  let rest := skipSpacing cs
  match splitEnding? rest with
  | some (_, after) =>
    let after := skipSpacing after
    if after.isEmpty || (splitEnding? after).isSome then none else some after
  | none => if rest.length < cs.length then some rest else none

/-- What follows white space with at most one line ending, possibly none. -/
def skipGap (cs : List Char) : List Char := (skipGap? cs).getD cs

/-- The largest size of a label, in bytes. -/
def labelLimit : Nat := 999

/-- Inside a label: its size so far, whether it holds more than white space, whether a backslash
protects the next character, and the characters taken. -/
def labelFrom (size : Nat) (seen escaped : Bool) (taken : List Char) :
    List Char → Option (List Char × List Char)
  | [] => none
  | c :: cs =>
    if escaped && (c == '[' || c == ']' || c == '\\') then
      labelFrom (size + 1) seen false (c :: taken) cs
    else if labelLimit < size || c == '[' then none
    else if c == ']' then if seen then some (taken.reverse, cs) else none
    else if isEnding c then labelFrom size seen false (c :: taken) cs
    else labelFrom (size + c.utf8Size) (seen || !isSpacing c) (c == '\\') (c :: taken) cs

/-- The label that an opening bracket starts, and what follows its closing bracket. -/
def label? : List Char → Option (List Char × List Char)
  | '[' :: cs => labelFrom 0 false false [] cs
  | _ => none

/-- A control character of ASCII other than NUL, which no bare destination holds. -/
def isControl (c : Char) : Bool := (0x01 ≤ c.toNat && c.toNat ≤ 0x1F) || c.toNat == 0x7F

/-- Inside a destination between angle brackets. -/
def enclosedFrom (escaped : Bool) (taken : List Char) :
    List Char → Option (List Char × List Char)
  | [] => none
  | c :: cs =>
    if escaped && (c == '<' || c == '>' || c == '\\') then enclosedFrom false (c :: taken) cs
    else if c == '>' then some (taken.reverse, cs)
    else if c == '<' || isEnding c then none
    else enclosedFrom (c == '\\') (c :: taken) cs

/-- Inside a bare destination, under `depth` open parentheses of at most `limit`. -/
def bareFrom (limit depth : Nat) (escaped : Bool) (taken : List Char) :
    List Char → Option (List Char × List Char)
  | [] => if depth == 0 then some (taken.reverse, []) else none
  | c :: cs =>
    if escaped && (c == '(' || c == ')' || c == '\\') then
      bareFrom limit depth false (c :: taken) cs
    else if depth == 0 && (isSpacing c || isEnding c || c == ')') then some (taken.reverse, c :: cs)
    else if c == '(' && depth < limit then bareFrom limit (depth + 1) false (c :: taken) cs
    else if c == ')' then bareFrom limit (depth - 1) false (c :: taken) cs
    else if c == ' ' || c == '(' || isControl c then none
    else bareFrom limit depth (c == '\\') (c :: taken) cs

/-- A destination, with what follows it. A bare one is not empty. -/
def destination? (limit : Nat) : List Char → Option (List Char × List Char)
  | [] => none
  | '<' :: cs => enclosedFrom false [] cs
  | c :: cs =>
    if c == ' ' || c == ')' || isControl c then none
    else bareFrom limit 0 false [] (c :: cs)

/-- Inside a title, up to the character that closes it. -/
def titleFrom (close : Char) (escaped : Bool) : List Char → Option (List Char)
  | [] => none
  | c :: cs =>
    if escaped && (c == close || c == '\\') then titleFrom close false cs
    else if c == close then some cs
    else titleFrom close (c == '\\') cs

/-- What follows a title in quotes or parentheses. -/
def title? : List Char → Option (List Char)
  | '\"' :: cs => titleFrom '\"' false cs
  | '\'' :: cs => titleFrom '\'' false cs
  | '(' :: cs => titleFrom ')' false cs
  | _ => none

/-- How deep parentheses may nest in the destination of a link. -/
def depthLimit : Nat := 32

/-- What follows a closing parenthesis. -/
def resourceEnd? (cs : List Char) : Option (List Char) :=
  match cs with
  | ')' :: rest => some rest
  | _ => none

/-- The part of a link after its text: a destination and a title in parentheses. -/
def resource? : List Char → Option (List Char × List Char)
  | '(' :: cs =>
    let cs := skipGap cs
    match cs with
    | ')' :: rest => some ([], rest)
    | _ => do
      let (destination, rest) ← destination? depthLimit cs
      let close ← match skipGap? rest with
        | none => resourceEnd? rest
        | some inner =>
          match inner with
          | '\"' :: _ | '\'' :: _ | '(' :: _ => do resourceEnd? (skipGap (← title? inner))
          | _ => resourceEnd? inner
      return (destination, close)
  | _ => none

end Typeset.Markdown.Link
