/-
Small and capital letters over the whole of Unicode.

`lowercase` and `uppercase` are the full mappings of the standard: a letter
may become several, and a capital sigma that ends a word becomes the final
small sigma. ASCII is decided first, so that plain text never looks at the
tables.
-/
import Typeset.Text.Case.Table

namespace Typeset.Text

namespace Case

/-- Whether code point `n` is one of the letters of the stretch. -/
def Stretch.covers (s : Stretch) (n : Nat) : Bool :=
  s.first ≤ n && n ≤ s.last && (n - s.first) % s.step == 0

/-- The counterpart of `n` by the first stretch that covers it, `n` itself if none does. -/
def shifted (stretches : List Stretch) (n : Nat) : Nat :=
  match stretches.find? (·.covers n) with
  | some s => (Int.ofNat n + s.shift).toNat
  | none => n

/-- The characters that replace a letter outside ASCII. -/
def counterpart (expansions : List (Nat × List Nat)) (stretches : List Stretch) (c : Char) :
    List Char :=
  match expansions.lookup c.toNat with
  | some ns => ns.map Char.ofNat
  | none => [Char.ofNat (shifted stretches c.toNat)]

def inRanges (ranges : List (Nat × Nat)) (c : Char) : Bool :=
  ranges.any fun (first, last) => first ≤ c.toNat && c.toNat ≤ last

/-- Whether the first character that is not case-ignorable is a cased letter. -/
def meetsCased : List Char → Bool
  | [] => false
  | c :: cs => if inRanges caseIgnorableRanges c then meetsCased cs else inRanges casedRanges c

/-- Capital sigma, whose small form depends on its place in the word. -/
def capitalSigma : Char := '\u03A3'

/-- A sigma ends its word: a cased letter precedes it and none follows. -/
def smallSigma (before after : List Char) : Char :=
  if meetsCased before && !meetsCased after then '\u03C2' else '\u03C3'

end Case

/-- The small form of one letter away from its word. -/
def smallForm (c : Char) : List Char :=
  if c.toNat < 0x80 then [c.toLower]
  else Case.counterpart Case.smallExpansions Case.smallStretches c

/-- The capital form of one letter. -/
def capitalForm (c : Char) : List Char :=
  if c.toNat < 0x80 then [c.toUpper]
  else Case.counterpart Case.capitalExpansions Case.capitalStretches c

/-- Small forms of the second list; the first one holds what precedes it, nearest first. -/
def smallForms : List Char → List Char → List Char
  | _, [] => []
  | before, c :: after =>
    (if c == Case.capitalSigma then [Case.smallSigma before after] else smallForm c)
      ++ smallForms (c :: before) after

/-- A text in small letters. -/
def lowercase (s : String) : String :=
  String.ofList (smallForms [] s.toList)

/-- A text in capital letters. -/
def uppercase (s : String) : String :=
  String.ofList (s.toList.flatMap capitalForm)

end Typeset.Text
