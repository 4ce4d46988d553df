/-
Reading a metadata block line by line.

Only the language, the title and the authors count; every other line is
ignored and reading never fails. The first occurrence of a field wins, where
an empty language or title is no occurrence. Authors may be a scalar, a list
in brackets, or the dashed lines that follow their key.
-/
import Typeset.Text.Blank

namespace Typeset

/-- The fields that a metadata block sets. -/
structure Frontmatter where
  /-- The language as written. -/
  lang : Option String := none
  title : Option String := none
  authors : Option (List String) := none
  deriving DecidableEq

namespace Frontmatter

def isEmpty (f : Frontmatter) : Bool := f.lang.isNone && f.title.isNone && f.authors.isNone

/-- Characters between two equal quotes. -/
def quoted? (q : Char) (cs : List Char) : Option (List Char) :=
  match cs with
  | c :: rest => if c == q && rest.getLast? == some q then some rest.dropLast else none
  | [] => none

/-- A scalar without blank characters around it and without one pair of quotes. -/
def unquoteChars (cs : List Char) : List Char :=
  let v := Text.stripBoth Text.isBlank cs
  match (quoted? '\"' v).or (quoted? '\'' v) with
  | some inner => Text.stripBoth Text.isBlank inner
  | none => v

/-- The value that a scalar writes. -/
def unquote (s : String) : String := String.ofList (unquoteChars s.toList)

/-- The key of a line and everything after the colon. -/
def splitKey? (line : List Char) : Option (List Char × List Char) :=
  match line.dropWhile (· != ':') with
  | _ :: rest =>
    let key := Text.stripBoth Text.isBlank (line.takeWhile (· != ':'))
    if key.isEmpty || key.any Text.isBlank then none else some (key, rest)
  | [] => none

/-- The values that are not empty. -/
def nonEmpty (values : List (List Char)) : List String :=
  (values.filter (!·.isEmpty)).map String.ofList

/-- A list in brackets, or one scalar; blank characters around the value are gone. -/
def inlineList (value : List Char) : List String :=
  match value with
  | '[' :: rest =>
    if rest.getLast? == some ']' then nonEmpty ((rest.dropLast.splitOn ',').map unquoteChars)
    else nonEmpty [unquoteChars value]
  | _ => nonEmpty [unquoteChars value]

/-- The text behind the dash of a list line. -/
def listItem? (line : List Char) : Option (List Char) :=
  match line.dropWhile Text.isBlank with
  | '-' :: c :: rest => some (c :: rest)
  | _ => none

/-- The texts of the list lines at the start, and the lines behind them. -/
def listItems : List (List Char) → List (List Char) × List (List Char)
  | [] => ([], [])
  | line :: lines =>
    match listItem? line with
    | some item =>
      let (items, rest) := listItems lines
      (item :: items, rest)
    | none => ([], line :: lines)

theorem length_listItems (lines : List (List Char)) :
    (listItems lines).2.length ≤ lines.length := by
  induction lines with
  | nil => simp [listItems]
  | cons line lines ih =>
    unfold listItems
    split
    · exact Nat.le_succ_of_le ih
    · exact Nat.le_refl _

/-- Whether a scalar may still be set. -/
def isUnset (value : Option String) : Bool := value.all (·.isEmpty)

/-- A scalar field after a line with its key. -/
def setScalar (value : Option String) (rest : List Char) : Option String :=
  if isUnset value && !rest.isEmpty then some (String.ofList (unquoteChars rest)) else value

/-- What one line sets, and the lines that are left. -/
def step (f : Frontmatter) (line : List Char) (lines : List (List Char)) :
    Frontmatter × List (List Char) :=
  match splitKey? line with
  | none => (f, lines)
  | some (key, rest) =>
    let key := String.ofList key
    if key == "lang" || key == "language" then ({ f with lang := setScalar f.lang rest }, lines)
    else if key == "title" then ({ f with title := setScalar f.title rest }, lines)
    else if key == "author" then
      if f.authors.isNone && !rest.isEmpty then
        ({ f with authors := some (nonEmpty [unquoteChars rest]) }, lines)
      else (f, lines)
    else if key == "authors" && f.authors.isNone then
      let value := Text.stripBoth Text.isBlank rest
      if value.isEmpty then
        let (items, after) := listItems lines
        ({ f with authors := some (nonEmpty (items.map unquoteChars)) }, after)
      else ({ f with authors := some (inlineList value) }, lines)
    else (f, lines)

theorem length_step (f : Frontmatter) (line : List Char) (lines : List (List Char)) :
    (step f line lines).2.length ≤ lines.length := by
  unfold step
  have := length_listItems lines
  split
  · exact Nat.le_refl _
  · dsimp only
    repeat' split
    all_goals first | exact Nat.le_refl _ | exact this

/-- Reads lines on top of the fields that are already set. -/
def readLines (f : Frontmatter) : List (List Char) → Frontmatter
  | [] => f
  | line :: lines => readLines (step f line lines).1 (step f line lines).2
termination_by lines => lines.length
decreasing_by
  have := length_step f line lines
  simp only [List.length_cons]
  omega

/-- A line without the carriage returns that end it. -/
def dropReturns (line : List Char) : List Char :=
  (line.reverse.dropWhile (· == '\r')).reverse

/-- The fields of a metadata block. -/
def read (raw : String) : Frontmatter :=
  readLines {} ((raw.toList.splitOn '\n').map dropReturns)

end Frontmatter

end Typeset
