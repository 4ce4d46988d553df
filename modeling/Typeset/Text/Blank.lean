/-
Blank characters and trimming.

A character is blank when the Unicode standard gives it the property
White_Space: 25 characters, line endings included. `trimBlanks` takes the
blank characters off both ends of a text and keeps everything between.
-/

namespace Typeset.Text

/-- A character with the property White_Space. -/
def isBlank (c : Char) : Bool :=
  let n := c.toNat
  n == 0x20 || (0x09 ≤ n && n ≤ 0x0D) || n == 0x85 || n == 0xA0 || n == 0x1680
    || (0x2000 ≤ n && n ≤ 0x200A) || n == 0x2028 || n == 0x2029 || n == 0x202F
    || n == 0x205F || n == 0x3000

/-- The characters from the first that fails `p` to the last that fails it. -/
def stripBoth (p : Char → Bool) (cs : List Char) : List Char :=
  ((cs.dropWhile p).reverse.dropWhile p).reverse

/-- A text without the blank characters at its two ends. -/
def trimBlanks (s : String) : String :=
  String.ofList (stripBoth isBlank s.toList)

/-- A text made of blank characters only, the empty text among them. -/
def isBlankText (s : String) : Bool :=
  s.toList.all isBlank

@[simp] theorem toList_trimBlanks (s : String) :
    (trimBlanks s).toList = stripBoth isBlank s.toList := by
  simp [trimBlanks]

end Typeset.Text
