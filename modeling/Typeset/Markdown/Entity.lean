/-
Character references: an ampersand, a name or a number, and a semicolon.

A name is looked up in the table of HTML. A number is a code point; controls,
surrogates and noncharacters become the replacement character.
-/
import Std.Data.HashMap
import Typeset.Markdown.Entity.Table

namespace Typeset.Markdown.Entity

/-- The value of a digit in a base up to sixteen. -/
def digit? (base : Nat) (c : Char) : Option Nat :=
  let n := c.toNat
  let value :=
    if c.isDigit then n - 0x30
    else if 'a' ≤ c && c ≤ 'f' then n - 0x57
    else if 'A' ≤ c && c ≤ 'F' then n - 0x37
    else base
  if value < base then some value else none

/-- The number that digits write, the most significant first. -/
def number (base : Nat) (digits : List Char) : Nat :=
  digits.foldl (fun n c => n * base + (digit? base c).getD 0) 0

/-- One entry of the table: a name and its characters. -/
def entry? (text : List Char) : Option (String × String) :=
  match text.splitOn ' ' with
  | name :: points@(_ :: _) =>
    some (String.ofList name, String.ofList (points.map fun p => Char.ofNat (number 16 p)))
  | _ => none

/-- The table, by name. -/
def table : Std.HashMap String String :=
  Std.HashMap.ofList ((lines.flatMap fun line => line.toList.splitOn ';').filterMap entry?)

/-- A code point that a numeric reference may not name. -/
def isRefused (n : Nat) : Bool :=
  n ≤ 0x08 || n == 0x0B || (0x0E ≤ n && n ≤ 0x1F) || (0x7F ≤ n && n ≤ 0x9F)
    || (0xFDD0 ≤ n && n ≤ 0xFDEF) || n % 0x10000 == 0xFFFE || n % 0x10000 == 0xFFFF

/-- The character of a numeric reference. -/
def numeric (n : Nat) : Char :=
  if n.isValidChar && !isRefused n then Char.ofNat n else '\uFFFD'

/-- Digits up to a closing semicolon, at least one and at most `limit`. -/
def digits (base limit : Nat) (cs : List Char) : Option (Char × List Char) :=
  let ds := cs.takeWhile fun c => (digit? base c).isSome
  match cs.drop ds.length with
  | ';' :: rest =>
    if ds.isEmpty || limit < ds.length then none else some (numeric (number base ds), rest)
  | _ => none

/-- The longest name of a reference. -/
def nameLimit : Nat := 31

/-- The text of the reference that follows an ampersand, with what comes after it. -/
def read? : List Char → Option (String × List Char)
  | '#' :: c :: cs =>
    let result := if c == 'x' || c == 'X' then digits 16 6 cs else digits 10 7 (c :: cs)
    result.map fun (value, rest) => (String.singleton value, rest)
  | cs =>
    let name := cs.takeWhile Char.isAlphanum
    match cs.drop name.length with
    | ';' :: rest =>
      if nameLimit < name.length then none
      else (table[String.ofList name]?).map fun value => (value, rest)
    | _ => none

end Typeset.Markdown.Entity
