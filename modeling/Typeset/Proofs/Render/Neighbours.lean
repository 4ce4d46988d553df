/-
What stands behind a call.

A call that ends in a bracket or a parenthesis takes one more argument list if
markup that begins with an opening one follows at once. Prose is escaped leaf
by leaf, which protects brackets but leaves parentheses alone. So no call takes
a bracket for its own, and it takes a parenthesis exactly where a text that
begins with one is the next thing shown.
-/
import Typeset.Proofs.Render.ReferenceLabel

namespace Typeset

namespace Markup

/-- A call of a function, on a content block or on a literal. -/
inductive IsCall : String → Prop
  | content (function content : String) : IsCall (call function content)
  | image (url : String) : IsCall (image url)
  | link (url label : String) : IsCall (link url label)

theorem IsCall.ends {s : String} (h : IsCall s) :
    ∃ inside, s.toList = '#' :: (inside ++ [']']) ∨ s.toList = '#' :: (inside ++ [')']) := by
  cases h with
  | content function content =>
    exact ⟨function.toList ++ '[' :: content.toList, .inl (by simp [Markup.call])⟩
  | image url => exact ⟨"image(".toList ++ (quote url).toList, .inr (by simp [Markup.image])⟩
  | link url label =>
    let shown := if Text.isBlankText label then escapeText url else label
    exact ⟨"link(".toList ++ (quote url).toList ++ ")[".toList ++ shown.toList,
      .inl (by simp [Markup.link, shown])⟩

theorem IsCall.head? {s : String} (h : IsCall s) : s.toList.head? = some '#' := by
  obtain ⟨inside, hs | hs⟩ := h.ends <;> rw [hs] <;> rfl

/-- Prose begins with a bracket nowhere, and with a parenthesis where its text does. -/
theorem head?_escapeText (s : String) :
    (escapeText s).toList.head? ≠ some '[' ∧
      ((escapeText s).toList.head? = some '(' ↔ s.toList.head? = some '(') := by
  rw [escapeText, String.toList_ofList]
  cases s.toList with
  | nil => simp
  | cons c cs =>
    rw [List.flatMap_cons, List.head?_cons, escapeChar]
    split
    · rename_i hs
      have hc : c ≠ '(' := by
        rintro rfl
        cases hs
      simp [hc]
    · rename_i hs
      have hc : c ≠ '[' := by
        rintro rfl
        exact hs rfl
      simp [hc]

end Markup

namespace Inline

/-- What notes expand to is calls. -/
def NotesCall (note : NoteExpander Logged) : Prop :=
  ∀ identifier s, (note identifier).value = some s → Markup.IsCall s

section

variable (refs : References) (note : NoteExpander Logged)

/-- An inline whose markup is one call. -/
def isCall : Inline → Bool
  | .strike _ | .highlight _ | .subscript _ | .superscript _ | .link _ _ | .image _ _ => true
  | .linkReference identifier _ _ => (refs.url? identifier).isSome
  | .footnoteReference identifier => (note identifier).value.isSome
  | .text _ | .strong _ | .emphasis _ | .inlineCode _ | .inlineMath _ | .lineBreak => false

mutual

/-- What of an inline stands in the markup of its run: nothing if it shows nothing, and for a
reference without a definition what its text consists of, or its label. -/
def spread : Inline → List Inline
  | .linkReference identifier label children =>
    if (refs.url? identifier).isSome then [.linkReference identifier label children]
    else if (renderAll refs note children).value.isEmpty then
      if (literalLabel label identifier).isEmpty then [] else [.text (literalLabel label identifier)]
    else spreadAll children
  | i => if ((i.render refs note).value.getD "").isEmpty then [] else [i]

/-- What of a run stands side by side in its markup. -/
def spreadAll : List Inline → List Inline
  | [] => []
  | i :: is => spread i ++ spreadAll is

end

end

section

variable {refs : References} {note : NoteExpander Logged}

theorem value_renderAll_append (is js : List Inline) : (renderAll refs note (is ++ js)).value =
    (renderAll refs note is).value ++ (renderAll refs note js).value := by
  induction is with
  | nil => simp [renderAll]
  | cons i is ih => simp [renderAll, ih, String.append_assoc]

theorem value_renderAll_singleton (i : Inline) :
    (renderAll refs note [i]).value = (i.render refs note).value.getD "" := by
  simp [renderAll]

/-- An inline that is no reference without a definition stands there as it is, if it shows. -/
theorem spread_of_not_loose {i : Inline} (h : ∀ identifier label children,
    i = .linkReference identifier label children → (refs.url? identifier).isSome) :
    i.spread refs note = if ((i.render refs note).value.getD "").isEmpty then [] else [i] := by
  cases i with
  | linkReference identifier label children =>
    have hurl := h identifier label children rfl
    obtain ⟨url, hurl'⟩ := Option.isSome_iff_exists.1 hurl
    rw [spread, if_pos hurl, render, Logged.value_bind, hurl', if_neg]
    simp [Markup.link]
  | _ => rw [spread]; simp

mutual

/-- What stands in the markup of an inline has the same markup. -/
theorem value_renderAll_spread : ∀ i : Inline, (renderAll refs note (i.spread refs note)).value =
    (i.render refs note).value.getD ""
  | .linkReference identifier label children => by
    rw [spread, render, Logged.value_bind]
    cases hurl : refs.url? identifier with
    | some url => simp [renderAll, render, hurl]
    | none =>
      have hchildren := value_renderAll_spreadAll children
      by_cases htext : (renderAll refs note children).value.isEmpty = true
      · by_cases hlabel : literalLabel label identifier = ""
        · simp [htext, hlabel, renderAll, Markup.escapeText_empty]
        · simp [htext, hlabel, renderAll, render]
      · simp [htext, hchildren]
  | .text _ | .strong _ | .emphasis _ | .strike _ | .highlight _ | .subscript _ | .superscript _
  | .inlineCode _ | .inlineMath _ | .link _ _ | .footnoteReference _ | .image _ _ | .lineBreak => by
    rw [spread_of_not_loose (by simp)]
    split
    · rename_i hempty
      rw [String.isEmpty_iff.1 hempty]
      rfl
    · exact value_renderAll_singleton _

theorem value_renderAll_spreadAll : ∀ is : List Inline,
    (renderAll refs note (spreadAll refs note is)).value = (renderAll refs note is).value
  | [] => rfl
  | i :: is => by
    rw [spreadAll, value_renderAll_append, value_renderAll_spread i, value_renderAll_spreadAll is]
    rfl

end

/-- An inline that stands in markup: it shows something, and is no reference without a
definition. -/
structure Stands (refs : References) (note : NoteExpander Logged) (i : Inline) : Prop where
  shown : (i.render refs note).value.getD "" ≠ ""
  defined : ∀ identifier label children,
    i = .linkReference identifier label children → (refs.url? identifier).isSome

theorem spread_of_stands {i : Inline} (h : Stands refs note i) : i.spread refs note = [i] := by
  rw [spread_of_not_loose h.defined, if_neg]
  exact mt String.isEmpty_iff.1 h.shown

mutual

theorem stands_of_mem_spread {j : Inline} :
    ∀ i : Inline, j ∈ i.spread refs note → Stands refs note j
  | .linkReference identifier label children, h => by
    rw [spread] at h
    split at h
    · rename_i hurl
      obtain ⟨url, hurl'⟩ := Option.isSome_iff_exists.1 hurl
      obtain rfl := List.mem_singleton.1 h
      refine ⟨?_, ?_⟩
      · rw [render, Logged.value_bind, hurl']
        simp [Markup.link]
      · rintro _ _ _ ⟨⟩
        exact hurl
    · split at h
      · split at h
        · cases h
        · rename_i hlabel
          obtain rfl := List.mem_singleton.1 h
          exact ⟨by simpa [render, Markup.escapeText_eq_empty_iff] using hlabel, by simp⟩
      · exact stands_of_mem_spreadAll children h
  | .text _, h | .strong _, h | .emphasis _, h | .strike _, h | .highlight _, h | .subscript _, h
  | .superscript _, h | .inlineCode _, h | .inlineMath _, h | .link _ _, h
  | .footnoteReference _, h | .image _ _, h | .lineBreak, h => by
    rw [spread_of_not_loose (by simp)] at h
    split at h
    · cases h
    · rename_i hshown
      obtain rfl := List.mem_singleton.1 h
      exact ⟨mt String.isEmpty_iff.2 hshown, by simp⟩

theorem stands_of_mem_spreadAll {j : Inline} :
    ∀ is : List Inline, j ∈ spreadAll refs note is → Stands refs note j
  | [], h => by cases h
  | i :: is, h => by
    rw [spreadAll, List.mem_append] at h
    exact h.elim (stands_of_mem_spread i) (stands_of_mem_spreadAll is)

end

theorem mem_spreadAll_of_stands {i : Inline} {is : List Inline} (hi : i ∈ is)
    (h : Stands refs note i) : i ∈ spreadAll refs note is := by
  induction is with
  | nil => cases hi
  | cons j is ih =>
    rw [spreadAll, List.mem_append]
    obtain rfl | hi := List.mem_cons.1 hi
    · exact .inl (by simp [spread_of_stands h])
    · exact .inr (ih hi)

theorem exists_call (hn : NotesCall note) {i : Inline} (h : i.isCall refs note = true) :
    ∃ call, (i.render refs note).value = some call ∧ Markup.IsCall call := by
  cases i with
  | strike | highlight | subscript | superscript => exact ⟨_, rfl, .content _ _⟩
  | link url _ => exact ⟨_, rfl, .link url _⟩
  | image url _ => exact ⟨_, rfl, .image url⟩
  | linkReference identifier label children =>
    obtain ⟨url, hurl⟩ := Option.isSome_iff_exists.1 h
    refine ⟨Markup.link url (renderAll refs note children).value, ?_, .link url _⟩
    rw [render, Logged.value_bind, hurl]
    rfl
  | footnoteReference identifier =>
    obtain ⟨call, hcall⟩ := Option.isSome_iff_exists.1 h
    exact ⟨call, hcall, hn identifier call hcall⟩
  | text | strong | emphasis | inlineCode | inlineMath | lineBreak => cases h

theorem stands_of_isCall (hn : NotesCall note) {i : Inline} (h : i.isCall refs note = true) :
    Stands refs note i := by
  obtain ⟨call, hcall, his⟩ := exists_call hn h
  constructor
  · rw [hcall, Option.getD_some]
    rintro rfl
    simpa using his.head?
  · rintro identifier label children rfl
    exact h

theorem head?_of_mark {i : Inline} {cs : List Char} {mark : Char} (h : cs.head? = some mark)
    (hbracket : mark ≠ '[') (hparen : mark ≠ '(') (htext : ∀ value, i ≠ .text value) :
    cs.head? ≠ some '[' ∧
      (cs.head? = some '(' ↔ ∃ value, i = .text value ∧ value.toList.head? = some '(') := by
  rw [h]
  refine ⟨by simpa using hbracket, iff_of_false (by simpa using hparen) ?_⟩
  rintro ⟨value, hi, -⟩
  exact htext value hi

/-- What stands in markup begins with a bracket nowhere, and with a parenthesis only where it is a
text that does. -/
theorem Stands.head?_render (hn : NotesCall note) {i : Inline} (h : Stands refs note i) :
    let s := ((i.render refs note).value.getD "").toList
    s.head? ≠ some '[' ∧
      (s.head? = some '(' ↔ ∃ value, i = .text value ∧ value.toList.head? = some '(') := by
  intro s
  by_cases hcall : i.isCall refs note = true
  · obtain ⟨call, hvalue, his⟩ := exists_call hn hcall
    have hs : s = call.toList := by simp only [s, hvalue, Option.getD_some]
    refine head?_of_mark (hs ▸ his.head?) (by decide) (by decide) fun value hi => ?_
    rw [hi] at hcall
    cases hcall
  · cases i with
    | text value => simpa [s, render] using Markup.head?_escapeText value
    | strong | emphasis | inlineCode | inlineMath | lineBreak =>
      refine head?_of_mark (by simp [s, render, Markup.inlineCode, Markup.inlineMath]; rfl)
        (by decide) (by decide) (by simp)
    | linkReference identifier label children => exact absurd (h.defined _ _ _ rfl) hcall
    | footnoteReference identifier =>
      -- A note that is not expanded shows nothing, and would not stand there.
      have hnone : (note identifier).value = none := by simpa [isCall] using hcall
      exact absurd (by rw [render, hnone]; rfl) h.shown
    | strike | highlight | subscript | superscript | link | image => simp [isCall] at hcall

theorem head?_renderAll (hn : NotesCall note) {is : List Inline} (h : ∀ i ∈ is, Stands refs note i) :
    let s := (renderAll refs note is).value.toList
    s.head? ≠ some '[' ∧
      (s.head? = some '(' ↔
        ∃ value tail, is = .text value :: tail ∧ value.toList.head? = some '(') := by
  intro s
  cases is with
  | nil => simp [s, renderAll]
  | cons i tail =>
    have hi := h i (by simp)
    have hne : ((i.render refs note).value.getD "").toList ≠ [] :=
      mt String.toList_eq_nil_iff.1 hi.shown
    have hs : s.head? = ((i.render refs note).value.getD "").toList.head? := by
      simp only [s, renderAll, Logged.value_bind, Logged.value_pure, String.toList_append]
      exact List.head?_append_of_ne_nil _ hne
    obtain ⟨hbracket, hparen⟩ := hi.head?_render hn
    rw [hs]
    refine ⟨hbracket, hparen.trans ?_⟩
    simp

end

end Inline

theorem Inline.notesCall_expandNote (refs : References) (opened : List String) :
    NotesCall (expandNote refs opened) := by
  intro identifier s h
  cases hn : refs.note? identifier with
  | none => simp [expandNote_undefined hn] at h
  | some body =>
    by_cases ho : Text.lowercase identifier ∈ opened
    · simp [expandNote_open hn ho] at h
    · rw [expandNote_closed hn ho, Logged.value_bind, Logged.value_pure, Option.some.injEq] at h
      exact h ▸ .content _ _

namespace Context

/-- **What a call takes for its own.** Of a run of inlines let those stand side by side that show
something, a reference without a definition giving way to what it shows; the markup is that of the
run, and every call of the run is among them. Behind a call the markup never goes on with an opening
bracket, and it goes on with an opening parenthesis exactly if the next inline is a text that begins
with one: nothing stands between the two, so the call takes it for its arguments. -/
theorem call_absorbs_iff (c : Context) (is : List Inline) :
    let us := Inline.spreadAll c.references c.expander is
    (c.renderInlines us).1 = (c.renderInlines is).1 ∧
    (∀ i ∈ is, i.isCall c.references c.expander → i ∈ us) ∧
    ∀ before i after, us = before ++ i :: after → i.isCall c.references c.expander →
      ∃ call rest, (c.renderInline i).1 = some call ∧ Markup.IsCall call ∧
        (c.renderInlines after).1 = rest ∧
        (c.renderInlines is).1 = (c.renderInlines before).1 ++ call ++ rest ∧
        rest.toList.head? ≠ some '[' ∧
        (rest.toList.head? = some '(' ↔
          ∃ value tail, after = .text value :: tail ∧ value.toList.head? = some '(') := by
  intro us
  have hn : Inline.NotesCall c.expander := Inline.notesCall_expandNote c.references c.opened
  have hmarkup : (c.renderInlines us).1 = (c.renderInlines is).1 :=
    Inline.value_renderAll_spreadAll is
  refine ⟨hmarkup, fun i hi hcall => ?_, fun before i after hus hcall => ?_⟩
  · exact Inline.mem_spreadAll_of_stands hi (Inline.stands_of_isCall hn hcall)
  · obtain ⟨call, hvalue, his⟩ := Inline.exists_call hn hcall
    have hafter : ∀ j ∈ after, Inline.Stands c.references c.expander j := fun j hj =>
      Inline.stands_of_mem_spreadAll is (by simp [us, hus, hj])
    refine ⟨call, _, hvalue, his, rfl, ?_, Inline.head?_renderAll hn hafter⟩
    have hsplit : (c.renderInlines us).1 = (c.renderInlines before).1 ++
        (Inline.renderAll c.references c.expander (i :: after)).value := by
      rw [hus]
      exact Inline.value_renderAll_append before (i :: after)
    rw [← hmarkup, hsplit, Inline.renderAll, Logged.value_bind, Logged.value_bind, hvalue,
      String.append_assoc]
    rfl

/-- **A parenthesis behind a call is taken for its arguments.** -/
theorem parenthesis_absorbed :
    let c : Context := {}
    let power : Inline := .superscript [.text "2"]
    power.isCall c.references c.expander = true ∧ (c.renderInline power).1 = some "#super[2]" ∧
      (c.renderInlines [.text "(x)"]).1 = "(x)" ∧
      (c.renderInlines [.text "f", power, .text "(x)"]).1 = "f#super[2](x)" := by
  decide +kernel

end Context

end Typeset
