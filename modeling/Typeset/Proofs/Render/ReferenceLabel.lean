/-
The label that a link reference shows, and the one that plain text reads.

Both fall back from the text of the reference to the URL of its definition, or
to its label where it has none. Where there is a definition both do so for a
text that is blank, and agree. Without a definition plain text still does, but
markup falls back from the empty text only: so a reference whose text is made
of blanks shows those blanks, and is read as its label.
-/
import Mathlib.Logic.Function.Defs
import Typeset.Proofs.Markup.Brackets
import Typeset.Render.Context

namespace Typeset

/-! ## Escaped text -/

namespace Markup

/-- The first character of prose is told from what is written for it, and so is the rest. -/
theorem escapeChar_append_inj {c d : Char} {u v : List Char}
    (h : escapeChar c ++ u = escapeChar d ++ v) : c = d ∧ u = v := by
  have hbackslash : isSpecial '\\' = true := rfl
  unfold escapeChar at h
  split at h <;> split at h
  · simpa using h
  · rename_i hc hd
    obtain ⟨rfl, -⟩ := List.cons.inj h
    exact absurd hbackslash hd
  · rename_i hc hd
    obtain ⟨rfl, -⟩ := List.cons.inj h
    exact absurd hbackslash hc
  · simpa using h

theorem escapeText_injective : Function.Injective escapeText := by
  have h : ∀ cs ds : List Char, cs.flatMap escapeChar = ds.flatMap escapeChar → cs = ds := by
    have hne (c : Char) (cs : List Char) : escapeChar c ++ cs ≠ [] := by
      unfold escapeChar
      split <;> simp
    intro cs
    induction cs with
    | nil =>
      rintro (- | ⟨d, ds⟩) he
      · rfl
      · exact absurd he.symm (hne d _)
    | cons c cs ih =>
      rintro (- | ⟨d, ds⟩) he
      · exact absurd he (hne c _)
      · obtain ⟨rfl, hrest⟩ := escapeChar_append_inj he
        rw [ih ds hrest]
  intro s t he
  exact String.toList_inj.1 (h _ _ (String.ofList_injective he))

theorem isBlankText_escapeText (s : String) :
    Text.isBlankText (escapeText s) = Text.isBlankText s := by
  have h (c : Char) : (escapeChar c).all Text.isBlank = Text.isBlank c := by
    unfold escapeChar
    split
    · rename_i hs
      have hc : Text.isBlank c = false := by
        by_contra hb
        rw [not_special_of_isBlank (by simpa using hb)] at hs
        cases hs
      simp [hc]
    · simp
  rw [Text.isBlankText, escapeText, String.toList_ofList, List.all_flatMap]
  simp only [h, Text.isBlankText]

theorem escapeText_of_isBlankText {s : String} (h : Text.isBlankText s = true) :
    escapeText s = s := by
  have hself : s.toList.flatMap escapeChar = s.toList.flatMap fun c => [c] := by
    refine List.flatMap_congr fun c hc => ?_
    rw [escapeChar, if_neg]
    simpa using not_special_of_isBlank (List.all_eq_true.1 h c hc)
  rw [escapeText, hself, List.flatMap_singleton', String.ofList_toList]

@[simp] theorem escapeText_eq_empty_iff {s : String} : escapeText s = "" ↔ s = "" :=
  escapeText_injective.eq_iff' escapeText_empty

end Markup

/-! ## References of plain text -/

namespace Inline

variable (refs : References) (note : NoteExpander Logged)

theorem plainTexts_texts (values : List String) :
    plainTexts refs (values.map .text) = String.join values := by
  induction values with
  | nil => rfl
  | cons value values ih => rw [List.map_cons, plainTexts, plainText, ih, String.join_cons]

/-- Texts side by side are written as one. -/
theorem value_renderAll_texts (values : List String) :
    (renderAll refs note (values.map .text)).value = Markup.escapeText (String.join values) := by
  induction values with
  | nil => rfl
  | cons value values ih =>
    rw [List.map_cons, renderAll, Logged.value_bind, Logged.value_bind, ih, String.join_cons,
      Markup.escapeText_append]
    rfl

theorem plainTexts_reference (identifier : String) (label : Option String) (values : List String) :
    plainTexts refs [.linkReference identifier label (values.map .text)] =
      if Text.isBlankText (String.join values) then
        (refs.url? identifier).getD (literalLabel label identifier)
      else String.join values := by
  rw [plainTexts, plainTexts, String.append_empty, plainText, plainTexts_texts]

/-- A reference with a definition shows its text, or its URL where that is blank. -/
theorem value_render_reference_of_some {identifier url : String}
    (h : refs.url? identifier = some url) (label : Option String) (values : List String) :
    ((linkReference identifier label (values.map .text)).render refs note).value =
      some ("#link(" ++ Markup.quote url ++ ")[" ++
        Markup.escapeText (if Text.isBlankText (String.join values) then url
          else String.join values) ++ "]") := by
  rw [render, Logged.value_bind, value_renderAll_texts, h]
  simp only [Logged.value_pure, Markup.link, Markup.isBlankText_escapeText]
  split <;> rfl

/-- A reference without a definition shows its text, or its label where there is none. -/
theorem value_render_reference_of_none {identifier : String}
    (h : refs.url? identifier = none) (label : Option String) (values : List String) :
    ((linkReference identifier label (values.map .text)).render refs note).value =
      some (Markup.escapeText (if String.join values = "" then literalLabel label identifier
        else String.join values)) := by
  rw [render, Logged.value_bind, value_renderAll_texts, h]
  simp only [Logged.value_bind, Logged.value_pure, String.isEmpty_iff,
    Markup.escapeText_eq_empty_iff]
  split <;> rfl

end Inline

namespace Context

/-- **Which references show what plain text reads.** Let a link reference hold texts. With a
definition, the label of the link is what plain text reads of the reference, escaped. Without one,
the whole output is that exactly if the text of the reference is not blank, is empty, or happens to
be the label itself; a text of blanks stands in the output as it is, and plain text reads the label
or the identifier instead. -/
theorem reference_label_iff (c : Context) (identifier : String) (label : Option String)
    (values : List String) :
    let node : Inline := .linkReference identifier label (values.map .text)
    let text := String.join values
    let plain := Inline.plainTexts c.references [node]
    (∀ url, c.references.url? identifier = some url → (c.renderInline node).1 =
      some ("#link(" ++ Markup.quote url ++ ")[" ++ Markup.escapeText plain ++ "]")) ∧
    (c.references.url? identifier = none → ∃ shown, (c.renderInline node).1 = some shown ∧
      (shown = Markup.escapeText plain ↔
        Text.isBlankText text = false ∨ text = "" ∨ text = literalLabel label identifier) ∧
      (shown ≠ Markup.escapeText plain →
        shown = text ∧ plain = literalLabel label identifier)) := by
  intro node text plain
  have hplain := Inline.plainTexts_reference c.references identifier label values
  constructor
  · intro url hurl
    rw [hurl, Option.getD_some] at hplain
    have hshown :=
      Inline.value_render_reference_of_some c.references c.expander hurl label values
    rw [← hplain] at hshown
    exact hshown
  · intro hurl
    rw [hurl, Option.getD_none] at hplain
    refine ⟨_, Inline.value_render_reference_of_none c.references c.expander hurl label values, ?_⟩
    by_cases hblank : Text.isBlankText text = true
    · have hlabel : plain = literalLabel label identifier := hplain.trans (if_pos hblank)
      by_cases hempty : text = ""
      · rw [if_pos hempty, hlabel]
        exact ⟨iff_of_true rfl (.inr (.inl hempty)), fun hne => absurd rfl hne⟩
      · -- Only here do the two fall back differently: there is a text, and it is blank.
        rw [if_neg hempty, hlabel]
        refine ⟨?_, fun _ => ⟨Markup.escapeText_of_isBlankText hblank, rfl⟩⟩
        rw [Markup.escapeText_injective.eq_iff]
        simp [hblank, hempty, text]
    · have htext : plain = text := hplain.trans (if_neg hblank)
      have hempty : text ≠ "" := fun hempty => hblank (hempty ▸ rfl)
      rw [if_neg hempty, htext]
      exact ⟨iff_of_true rfl (.inl (by simpa using hblank)), fun hne => absurd rfl hne⟩

/-- **A reference around a blank shows the blank and is read as its label.** -/
theorem blank_reference_read_as_label :
    let c : Context := {}
    let node : Inline := .linkReference "missing" (some "Missing") [.text "  "]
    c.references.url? "missing" = none ∧ (c.renderInline node).1 = some "  " ∧
      Inline.plainTexts c.references [node] = "Missing" ∧
      "  " ≠ Markup.escapeText (Inline.plainTexts c.references [node]) := by
  decide +kernel

end Context

end Typeset
