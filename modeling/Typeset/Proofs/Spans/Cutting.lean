/-
What cutting one text gives.

A text is cut at its leftmost span, and what follows that span is cut on its
own. So a span that opened in a plain piece would have been the leftmost one:
plain pieces have none, and a text without a span is one piece.
-/
import Typeset.Document.Spans

namespace Typeset.Spans

/-- Behind an opening `d` a span ends: `d` stands again after one or more characters of the same
line, of which `d` itself may be one. -/
def Closes (d : Char) (cs : List Char) : Prop :=
  ∃ inner after, cs = inner ++ d :: after ∧ inner ≠ [] ∧ ∀ c ∈ inner, c ≠ '\r' ∧ c ≠ '\n'

/-- Somewhere in the characters stands a span. -/
def Spanned (cs : List Char) : Prop :=
  ∃ before d after, cs = before ++ d :: after ∧ (d = '^' ∨ d = '~') ∧ Closes d after

/-- A text with a span. -/
def HasSpan (value : String) : Prop := Spanned value.toList

theorem isDelimiter_iff {c : Char} : isDelimiter c = true ↔ c = '^' ∨ c = '~' := by
  simp [isDelimiter]

theorem endsLine_eq_false {c : Char} : endsLine c = false ↔ c ≠ '\r' ∧ c ≠ '\n' := by
  simp [endsLine, and_comm]

/-! ## Finding a span -/

theorem upTo_eq_some {d : Char} {cs content rest : List Char}
    (h : upTo d cs = some (content, rest)) :
    cs = content ++ d :: rest ∧ ∀ c ∈ content, c ≠ '\r' ∧ c ≠ '\n' := by
  induction cs generalizing content with
  | nil => simp [upTo] at h
  | cons c cs ih =>
    unfold upTo at h
    split at h
    · rename_i hc
      simp only [Option.some.injEq, Prod.mk.injEq] at h
      obtain ⟨rfl, rfl⟩ := h
      simp [beq_iff_eq.1 hc]
    · split at h
      · cases h
      · rename_i hl
        simp only [Option.map_eq_some_iff, Prod.exists, Prod.mk.injEq] at h
        obtain ⟨a, b, hab, rfl, rfl⟩ := h
        obtain ⟨rfl, ha⟩ := ih hab
        refine ⟨rfl, fun x hx => ?_⟩
        rcases List.mem_cons.1 hx with rfl | hx
        · exact endsLine_eq_false.1 (by simpa using hl)
        · exact ha x hx

theorem upTo_isSome {d : Char} {inner after : List Char} (h : ∀ c ∈ inner, c ≠ '\r' ∧ c ≠ '\n') :
    (upTo d (inner ++ d :: after)).isSome := by
  induction inner with
  | nil => simp [upTo]
  | cons c inner ih =>
    have hc := endsLine_eq_false.2 (h c (by simp))
    have hi := ih fun x hx => h x (by simp [hx])
    simp only [List.cons_append, upTo, hc]
    split <;> simp [hi]

theorem content?_eq_some {d : Char} {cs content rest : List Char}
    (h : content? d cs = some (content, rest)) :
    cs = content ++ d :: rest ∧ content ≠ [] ∧ ∀ c ∈ content, c ≠ '\r' ∧ c ≠ '\n' := by
  cases cs with
  | nil => simp [content?] at h
  | cons c cs =>
    simp only [content?] at h
    split at h
    · cases h
    · rename_i hl
      simp only [Option.map_eq_some_iff, Prod.exists, Prod.mk.injEq] at h
      obtain ⟨a, b, hab, rfl, rfl⟩ := h
      obtain ⟨rfl, ha⟩ := upTo_eq_some hab
      refine ⟨rfl, by simp, fun x hx => ?_⟩
      rcases List.mem_cons.1 hx with rfl | hx
      · exact endsLine_eq_false.1 (by simpa using hl)
      · exact ha x hx

/-- The search misses no span. -/
theorem not_closes_of_content? {d : Char} {cs : List Char} (h : content? d cs = none) :
    ¬ Closes d cs := by
  rintro ⟨inner, after, rfl, hne, hin⟩
  obtain ⟨c, inner, rfl⟩ := List.exists_cons_of_ne_nil hne
  have hc := endsLine_eq_false.2 (hin c (by simp))
  have hs : (upTo d (inner ++ d :: after)).isSome := upTo_isSome fun x hx => hin x (by simp [hx])
  simp only [List.cons_append, content?, hc] at h
  simp_all

/-! ## The pieces -/

/-- No span opens among characters that are passed, given in reverse, with `cs` behind them. -/
def Passed (reversed cs : List Char) : Prop :=
  ∀ before d mid, reversed.reverse = before ++ d :: mid → d = '^' ∨ d = '~' → ¬ Closes d (mid ++ cs)

theorem Passed.nil (cs : List Char) : Passed [] cs := by
  intro before d mid h
  simp at h

theorem Passed.cons {reversed cs : List Char} {c : Char} (h : Passed reversed (c :: cs))
    (hc : c = '^' ∨ c = '~' → ¬ Closes c cs) : Passed (c :: reversed) cs := by
  intro before d mid he hd
  rw [List.reverse_cons, List.append_eq_append_iff] at he
  obtain ⟨as, -, he⟩ | ⟨bs, hb, he⟩ := he
  · obtain ⟨rfl, rfl, rfl⟩ : as = [] ∧ d = c ∧ mid = [] := by
      simpa [List.singleton_eq_append_iff] using he
    exact hc hd
  · cases bs with
    | nil =>
      obtain ⟨rfl, rfl⟩ : d = c ∧ mid = [] := by simpa using he
      exact hc hd
    | cons x m =>
      obtain ⟨rfl, rfl⟩ : d = x ∧ mid = m ++ [c] := by simpa using he
      simpa using h before d m hb hd

theorem Passed.not_spanned {reversed cs : List Char} (h : Passed reversed cs) :
    ¬ Spanned reversed.reverse := by
  rintro ⟨before, d, after, he, hd, inner, rest, rfl, hne, hin⟩
  exact h before d _ he hd ⟨inner, rest ++ cs, by simp, hne, hin⟩

theorem mem_plain {reversed : List Char} {i : Inline} (h : i ∈ plain reversed) :
    i = .text (String.ofList reversed.reverse) := by
  unfold plain at h
  split at h
  · cases h
  · simpa using h

/-- Cutting makes nodes of spans and plain pieces without one. -/
theorem mem_cutFrom {reversed cs : List Char} (h : Passed reversed cs) {i : Inline}
    (hi : i ∈ cutFrom reversed cs) :
    (∃ value, i = .text value ∧ ¬ HasSpan value) ∨
      ∃ d content, i = node d content ∧ content ≠ [] ∧ ∀ c ∈ content, c ≠ '\r' ∧ c ≠ '\n' := by
  have hplain : ∀ {reversed cs}, Passed reversed cs → i ∈ plain reversed →
      ∃ value, i = .text value ∧ ¬ HasSpan value := fun h hi =>
    ⟨_, mem_plain hi, by simpa [HasSpan] using h.not_spanned⟩
  fun_induction cutFrom reversed cs with
  | case1 reversed => exact .inl (hplain h hi)
  | case2 reversed c cs hc content rest hcr ih =>
    simp only [List.mem_append, List.mem_cons] at hi
    rcases hi with hi | rfl | hi
    · exact .inl (hplain h hi)
    · exact .inr ⟨c, content, rfl, (content?_eq_some hcr).2⟩
    · exact ih (.nil _) hi
  | case3 reversed c cs hc hn ih => exact ih (h.cons fun _ => not_closes_of_content? hn) hi
  | case4 reversed c cs hc ih =>
    exact ih (h.cons fun hd => absurd (isDelimiter_iff.2 hd) hc) hi

theorem Spanned.cons {c : Char} {cs : List Char} (h : Spanned cs) : Spanned (c :: cs) := by
  obtain ⟨before, d, after, rfl, h⟩ := h
  exact ⟨c :: before, d, after, rfl, h⟩

/-- Characters without a span are one piece with what stands before them. -/
theorem cutFrom_of_not_spanned {reversed cs : List Char} (h : ¬ Spanned cs) :
    cutFrom reversed cs = plain (cs.reverse ++ reversed) := by
  fun_induction cutFrom reversed cs with
  | case1 reversed => simp
  | case2 reversed c cs hc content rest hcr ih =>
    exact absurd ⟨[], c, cs, rfl, isDelimiter_iff.1 hc, content, rest, content?_eq_some hcr⟩ h
  | case3 reversed c cs hc hn ih => simpa using ih (mt Spanned.cons h)
  | case4 reversed c cs hc ih => simpa using ih (mt Spanned.cons h)

theorem splitText_of_not_hasSpan {value : String} (hne : value ≠ "") (h : ¬ HasSpan value) :
    splitText value = [.text value] := by
  rw [splitText, cutFrom_of_not_spanned h]
  simp [plain, hne]

/-- The nodes of a text. -/
theorem mem_splitText {value : String} {i : Inline} (hi : i ∈ splitText value) :
    (∃ piece, i = .text piece ∧ ¬ HasSpan piece) ∨
      ∃ d content, i = node d content ∧ content ≠ [] ∧ ∀ c ∈ content, c ≠ '\r' ∧ c ≠ '\n' :=
  mem_cutFrom (.nil _) hi

end Typeset.Spans
