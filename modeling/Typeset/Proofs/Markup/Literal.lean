/-
Reading string literals.

A reader of literals takes a backslash with the character behind it as one
character, and the first quote that it meets on its own as the end. Whatever a
text holds, and whatever follows its literal, the reader gets the text back
and stops where the literal does.
-/
import Typeset.Markup.Escape

namespace Typeset.Markup

/-- What a backslash stands for together with the character behind it. -/
def unescape? (c : Char) : Option Char :=
  if c = '\\' then some '\\'
  else if c = '\"' then some '\"'
  else if c = 'n' then some '\n'
  else none

/-- The text of a literal from behind its first quote, and what follows the literal. -/
def readInside : List Char → Option (List Char × List Char)
  | [] => none
  | '\"' :: cs => some ([], cs)
  | '\\' :: c :: cs =>
    (unescape? c).bind fun meant => (readInside cs).map fun (text, rest) => (meant :: text, rest)
  | c :: cs => (readInside cs).map fun (text, rest) => (c :: text, rest)

/-- The text of the literal that stands first, and what follows it. -/
def readLiteral : List Char → Option (String × List Char)
  | '\"' :: cs => (readInside cs).map fun (text, rest) => (String.ofList text, rest)
  | _ => none

theorem readInside_cons {c : Char} (cs : List Char) (hq : c ≠ '\"') (hb : c ≠ '\\') :
    readInside (c :: cs) = (readInside cs).map fun (text, rest) => (c :: text, rest) := by
  rw [readInside]
  · exact hq
  · exact fun _ _ h => absurd h hb

/-- A character of a literal is read back. -/
theorem readInside_literalChar (c : Char) (cs : List Char) :
    readInside (literalChar c ++ cs) =
      (readInside cs).map fun (text, rest) => (c :: text, rest) := by
  unfold literalChar
  by_cases hb : c = '\\'
  · subst hb
    simp [readInside, unescape?]
  by_cases hq : c = '\"'
  · subst hq
    simp [readInside, unescape?]
  by_cases hn : c = '\n'
  · subst hn
    simp [readInside, unescape?]
  · simpa [hb, hq, hn] using readInside_cons cs hq hb

/-- **A literal is read back**, and the reader stops where it ends. -/
theorem readLiteral_quote (s : String) (cs : List Char) :
    readLiteral ((quote s).toList ++ cs) = some (s, cs) := by
  have h : ∀ text : List Char,
      readInside (text.flatMap literalChar ++ '\"' :: cs) = some (text, cs) := by
    intro text
    induction text with
    | nil => rfl
    | cons c text ih => rw [List.flatMap_cons, List.append_assoc, readInside_literalChar, ih]; rfl
  have hs : (quote s).toList ++ cs = '\"' :: (s.toList.flatMap literalChar ++ '\"' :: cs) := by
    simp [quote, escapeString]
  rw [hs, readLiteral, h]
  simp

/-- The text of a literal is not longer than its characters, and the quote that closes it is one
more. -/
theorem length_readInside {cs text rest : List Char} (h : readInside cs = some (text, rest)) :
    text.length + rest.length < cs.length := by
  fun_induction readInside cs generalizing text with
  | case1 => cases h
  | case2 cs =>
    cases h
    simp
  | case3 c cs ih =>
    simp only [Option.bind_eq_some_iff, Option.map_eq_some_iff, Prod.exists, Prod.mk.injEq] at h
    obtain ⟨_, -, text, _, h, rfl, rfl⟩ := h
    have := ih h
    simp only [List.length_cons]
    omega
  | case4 c cs hq hb ih =>
    simp only [Option.map_eq_some_iff, Prod.exists, Prod.mk.injEq] at h
    obtain ⟨text, _, h, rfl, rfl⟩ := h
    have := ih h
    simp only [List.length_cons]
    omega

theorem length_readLiteral {cs rest : List Char} {s : String}
    (h : readLiteral cs = some (s, rest)) : rest.length < cs.length := by
  unfold readLiteral at h
  split at h
  · simp only [Option.map_eq_some_iff, Prod.exists, Prod.mk.injEq] at h
    obtain ⟨text, _, h, -, rfl⟩ := h
    have := length_readInside h
    simp only [List.length_cons]
    omega
  · cases h

/-- A literal stays on its line. -/
theorem not_mem_quote (s : String) : '\n' ∉ (quote s).toList := by
  have h : ∀ c, '\n' ∉ literalChar c := by
    intro c hm
    unfold literalChar at hm
    split at hm
    · simp at hm
    · split at hm
      · simp at hm
      · split at hm
        · simp at hm
        · rename_i hn
          exact hn (by simpa using (List.mem_singleton.1 hm).symm)
  simp [quote, escapeString, h]

end Typeset.Markup
