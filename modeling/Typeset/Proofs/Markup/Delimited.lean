/-
Code and formulas between their delimiters.

A reader of markup takes a backslash and the character behind it together. Of
code inside a line the back quotes are protected, but not the backslashes: so a
backslash of the value takes away the protection that is put in front of a back
quote, or protects the one that closes. In formulas nothing is protected. Each
leaf keeps to its delimiters exactly where its value brings this about itself.
-/
import Typeset.Proofs.Markup.Brackets
import Typeset.Proofs.Text.Lines
import Typeset.Render.Context

namespace Typeset

namespace Markup

/-! ## Protected characters -/

theorem protecting_append {front : List Char} (h : protecting front = false) (cs : List Char) :
    protecting (front ++ cs) = protecting cs := by
  induction cs using List.reverseRecOn with
  | nil => simpa using h
  | append_singleton cs c ih => rw [← List.append_assoc, protecting_concat, ih, protecting_concat]

theorem protecting_cons {c : Char} (h : c ≠ '\\') (cs : List Char) :
    protecting (c :: cs) = protecting cs := by
  have hone : protecting [c] = false := by
    rw [← List.nil_append [c], protecting_concat]
    simp [h]
  exact protecting_append hone cs

theorem protecting_escapeText (s : String) : protecting (escapeText s).toList = false := by
  have hchar (c : Char) : protecting (escapeChar c) = false := by
    unfold escapeChar
    split
    · exact (protecting_concat ['\\'] c).trans (Bool.and_false _)
    · rename_i hs
      refine protecting_cons (fun hc => hs ?_) []
      rw [hc]
      rfl
  rw [escapeText, String.toList_ofList]
  induction s.toList with
  | nil => rfl
  | cons c cs ih => rw [List.flatMap_cons, protecting_append (hchar c), ih]

/-- Every occurrence of a character is protected. -/
def AllProtected (d : Char) (cs : List Char) : Prop :=
  ∀ before after, cs = before ++ d :: after → protecting before = true

/-- No occurrence of a character is protected. -/
def NoneProtected (d : Char) (cs : List Char) : Prop :=
  ∀ before after, cs = before ++ d :: after → protecting before = false

/-- A text that a character delimits: it is the first and the last, and no other occurrence of it is
left unprotected. -/
structure Delimits (d : Char) (s : String) : Prop where
  ends : ∃ inner, s.toList = d :: (inner ++ [d])
  bare_iff : ∀ before after, s.toList = before ++ d :: after →
    (protecting before = false ↔ before = [] ∨ after = [])

variable {d : Char} {cs : List Char}

/-- What stands between two delimiters must protect those it holds, and not the one that closes. -/
theorem delimits_iff {s : String} (hd : d ≠ '\\') (hs : s.toList = d :: (cs ++ [d])) :
    Delimits d s ↔ AllProtected d cs ∧ protecting cs = false := by
  constructor
  · rintro ⟨-, hbare⟩
    refine ⟨fun before after hcs => ?_, ?_⟩
    · have hinside := hbare (d :: before) (after ++ [d]) (by simp [hs, hcs])
      rw [protecting_cons hd] at hinside
      simpa using hinside
    · have hlast := hbare (d :: cs) [] (by simp [hs])
      rw [protecting_cons hd] at hlast
      exact hlast.2 (.inr rfl)
  · rintro ⟨hall, hopen⟩
    refine ⟨⟨cs, hs⟩, fun before after h => ?_⟩
    rw [hs] at h
    cases before with
    | nil => simp
    | cons c before =>
      obtain ⟨rfl, hinner⟩ := List.cons.inj (h.trans (List.cons_append ..))
      rw [protecting_cons hd]
      rcases List.eq_nil_or_concat' after with rfl | ⟨after, c', rfl⟩
      · obtain rfl : cs = before := (List.append_inj' hinner rfl).1
        simp [hopen]
      · rw [← List.cons_append, ← List.append_assoc] at hinner
        have hbefore := hall before after (List.append_inj' hinner rfl).1
        simp [hbefore]

/-! ## Code inside a line -/

/-- The characters of code with each back quote behind a backslash. -/
def protectQuotes (cs : List Char) : List Char :=
  cs.flatMap fun c => if c == '\x60' then ['\\', c] else [c]

theorem protectQuotes_append (cs cs' : List Char) :
    protectQuotes (cs ++ cs') = protectQuotes cs ++ protectQuotes cs' := List.flatMap_append

/-- The backslashes that are put in change nothing behind the back quotes that they are for. -/
theorem protecting_protectQuotes (cs : List Char) :
    protecting (protectQuotes cs) = protecting cs := by
  induction cs using List.reverseRecOn with
  | nil => rfl
  | append_singleton cs c ih =>
    rw [protectQuotes_append, protecting_concat]
    by_cases hc : c = '\x60'
    · subst hc
      have hpair : protectQuotes ['\x60'] = ['\\'] ++ ['\x60'] := rfl
      rw [hpair, ← List.append_assoc, protecting_concat]
      simp
    · have hone : protectQuotes [c] = [c] := by simp [protectQuotes, hc]
      rw [hone, protecting_concat, ih]

/-- Each back quote of code that is written comes from one of the code. -/
theorem protectQuotes_eq_append_cons {before after : List Char}
    (h : protectQuotes cs = before ++ '\x60' :: after) :
    ∃ front rest, cs = front ++ '\x60' :: rest ∧ before = protectQuotes front ++ ['\\'] := by
  induction cs generalizing before with
  | nil => simp [protectQuotes] at h
  | cons c cs ih =>
    by_cases hc : c = '\x60'
    · subst hc
      have hpair : protectQuotes ('\x60' :: cs) = '\\' :: '\x60' :: protectQuotes cs := rfl
      rw [hpair] at h
      match before, h with
      | [], h => simp at h
      | [c], h =>
        obtain rfl : '\\' = c := (List.cons.inj h).1
        exact ⟨[], cs, rfl, rfl⟩
      | c :: c' :: before, h =>
        obtain ⟨hc, htail⟩ := List.cons.inj h
        obtain ⟨hc', hrest⟩ := List.cons.inj htail
        obtain ⟨front, rest, hcs, hbefore⟩ := ih hrest
        exact ⟨'\x60' :: front, rest, by rw [hcs, List.cons_append],
          by rw [← hc, ← hc', hbefore]; rfl⟩
    · have hone : protectQuotes (c :: cs) = c :: protectQuotes cs := by
        simp [protectQuotes, hc]
      rw [hone] at h
      cases before with
      | nil => exact absurd (List.cons.inj h).1 hc
      | cons c' before =>
        obtain ⟨hc', hrest⟩ := List.cons.inj h
        obtain ⟨front, rest, hcs, hbefore⟩ := ih hrest
        refine ⟨c :: front, rest, by rw [hcs, List.cons_append], ?_⟩
        simp [protectQuotes, hc, ← hc', hbefore]

/-- A back quote of code is protected exactly where no backslash of the code protects it. -/
theorem allProtected_protectQuotes :
    AllProtected '\x60' (protectQuotes cs) ↔ NoneProtected '\x60' cs := by
  constructor
  · intro hall before after hcs
    have hwritten : protectQuotes cs =
        (protectQuotes before ++ ['\\']) ++ '\x60' :: protectQuotes after := by
      rw [hcs, protectQuotes_append]
      simp [protectQuotes]
    have h := hall _ _ hwritten
    rw [protecting_concat, protecting_protectQuotes] at h
    simpa using h
  · intro hnone before after h
    obtain ⟨front, rest, hcs, rfl⟩ := protectQuotes_eq_append_cons h
    rw [protecting_concat, protecting_protectQuotes, hnone front rest hcs]
    rfl

/-! ## Formulas -/

theorem allProtected_cons {c : Char} (hc : c ≠ '\\') (hd : c ≠ d) :
    AllProtected d (c :: cs) ↔ AllProtected d cs := by
  constructor
  · intro hall before after hcs
    have h := hall (c :: before) after (by rw [hcs, List.cons_append])
    rwa [protecting_cons hc] at h
  · intro hall before after h
    cases before with
    | nil => exact absurd (List.cons.inj h).1 hd
    | cons c' before =>
      obtain ⟨rfl, hrest⟩ := List.cons.inj h
      rw [protecting_cons hc]
      exact hall before after hrest

theorem allProtected_concat {c : Char} (hd : c ≠ d) :
    AllProtected d (cs ++ [c]) ↔ AllProtected d cs := by
  constructor
  · intro hall before after hcs
    exact hall before (after ++ [c]) (by simp [hcs])
  · intro hall before after h
    rcases List.eq_nil_or_concat' after with rfl | ⟨after, c', rfl⟩
    · exact absurd (List.append_inj' h rfl).2 (by simpa using hd)
    · rw [← List.cons_append, ← List.append_assoc] at h
      exact hall before after (List.append_inj' h rfl).1

end Markup

namespace Context

open Markup (AllProtected NoneProtected Delimits protecting)

/-- **Which values keep to their delimiters.** Code inside a line is delimited by its back quotes
exactly if no back quote of its value stands behind a backslash that protects it, and the value does
not end in one. A formula inside a line is delimited by its dollar signs exactly if each dollar sign
of the trimmed value is protected by the value itself, and the value does not end in a backslash
that protects; in a block of its own a formula has a space behind it, and its end does not matter. -/
theorem raw_leaves_delimited_iff (c : Context) (value : String) :
    let formula := (Text.trimBlanks value).toList
    (∃ s, (c.renderInline (.inlineCode value)).1 = some s ∧
      (Delimits '\x60' s ↔
        NoneProtected '\x60' value.toList ∧ protecting value.toList = false)) ∧
    (∃ s, (c.renderInline (.inlineMath value)).1 = some s ∧
      (Delimits '$' s ↔ AllProtected '$' formula ∧ protecting formula = false)) ∧
    ∃ s, (c.renderBlock (.mathBlock value) 0).1 = some s ∧
      (Delimits '$' s ↔ AllProtected '$' formula) := by
  intro formula
  refine ⟨⟨_, rfl, ?_⟩, ⟨_, rfl, ?_⟩, _, rfl, ?_⟩
  · have hs : (Markup.inlineCode value).toList =
        '\x60' :: (Markup.protectQuotes value.toList ++ ['\x60']) := by
      simp [Markup.inlineCode, Markup.protectQuotes]
    rw [Markup.delimits_iff (by decide) hs, Markup.allProtected_protectQuotes,
      Markup.protecting_protectQuotes]
  · have hs : (Markup.inlineMath value).toList = '$' :: (formula ++ ['$']) := by
      simp [Markup.inlineMath, formula]
    exact Markup.delimits_iff (by decide) hs
  · have hs : (Text.indent 0 (Markup.mathBlock value)).toList =
        '$' :: ((' ' :: (formula ++ [' '])) ++ ['$']) := by
      simp [Text.indent_zero, Markup.mathBlock, formula]
    have hend : Markup.protecting (' ' :: (formula ++ [' '])) = false := by
      rw [← List.cons_append, Markup.protecting_concat]
      rfl
    rw [Markup.delimits_iff (by decide) hs, Markup.allProtected_cons (by decide) (by decide),
      Markup.allProtected_concat (by decide), hend]
    simp

/-- **Values that leave their delimiters:** a backslash at the end of code, and a dollar sign in a
formula. -/
theorem leaves_break_out :
    let c : Context := {}
    (c.renderInline (.inlineCode "a\\")).1 = some "\x60a\\\x60" ∧
    ¬ Delimits '\x60' "\x60a\\\x60" ∧
    (c.renderInline (.inlineMath "a$b")).1 = some "$a$b$" ∧ ¬ Delimits '$' "$a$b$" ∧
    (c.renderBlock (.mathBlock "a$b") 0).1 = some "$ a$b $" ∧ ¬ Delimits '$' "$ a$b $" := by
  refine ⟨by decide +kernel, fun h => ?_, by decide +kernel, fun h => ?_, by decide +kernel,
    fun h => ?_⟩
  · exact absurd (h.bare_iff "\x60a\\".toList [] rfl) (by decide)
  · exact absurd (h.bare_iff "$a".toList "b$".toList rfl) (by decide)
  · exact absurd (h.bare_iff "$ a".toList "b $".toList rfl) (by decide)

end Context

end Typeset
