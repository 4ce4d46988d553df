/-
Trimming.

Trimming stops at the first character that stays, from either end, so what is
trimmed has nothing left to trim, and of the characters that can be trimmed
those stay that stand between two that cannot.
-/
import Mathlib.Data.List.DropRight
import Typeset.Text.Blank

namespace Typeset.Text

variable {p : Char → Bool} {cs lead inner : List Char}

theorem stripBoth_eq (p : Char → Bool) (cs : List Char) :
    stripBoth p cs = (cs.dropWhile p).rdropWhile p := rfl

/-- What is trimmed begins with a character that stays. -/
theorem dropWhile_stripBoth (p : Char → Bool) (cs : List Char) :
    (stripBoth p cs).dropWhile p = stripBoth p cs := by
  rw [List.dropWhile_eq_self_iff]
  intro hlength
  have hinit : stripBoth p cs <+: cs.dropWhile p := List.rdropWhile_prefix p _
  rw [hinit.getElem hlength]
  exact List.dropWhile_get_zero_not p cs _

theorem stripBoth_stripBoth (p : Char → Bool) (cs : List Char) :
    stripBoth p (stripBoth p cs) = stripBoth p cs := by
  rw [stripBoth_eq p (stripBoth p cs), dropWhile_stripBoth, stripBoth_eq,
    List.rdropWhile_idempotent]

theorem trimBlanks_trimBlanks (s : String) : trimBlanks (trimBlanks s) = trimBlanks s := by
  rw [trimBlanks, toList_trimBlanks, stripBoth_stripBoth, trimBlanks]

theorem stripBoth_append_left (h : ∀ c ∈ lead, p c) :
    stripBoth p (lead ++ cs) = stripBoth p cs := by
  rw [stripBoth_eq, List.dropWhile_append_of_pos h, stripBoth_eq]

/-- Trimming stops at a character that stays. -/
theorem exists_stripBoth_cons {c : Char} (h : p c = false) (cs : List Char) :
    ∃ tail, stripBoth p (c :: cs) = c :: tail := by
  rw [stripBoth_eq, List.dropWhile_cons_of_neg (by simp [h])]
  have hinit : (c :: cs).rdropWhile p <+: c :: cs := List.rdropWhile_prefix p _
  have hne : (c :: cs).rdropWhile p ≠ [] := fun hnil => by
    simpa [h] using List.rdropWhile_eq_nil_iff.1 hnil c List.mem_cons_self
  obtain ⟨d, tail, he⟩ := List.exists_cons_of_ne_nil hne
  obtain ⟨rfl, -⟩ := List.cons_prefix_cons.1 (he ▸ hinit)
  exact ⟨tail, he⟩

theorem stripBoth_between {a b : Char} (ha : p a = false) (hb : p b = false) (cs : List Char) :
    stripBoth p (a :: (cs ++ [b])) = a :: (cs ++ [b]) := by
  rw [stripBoth_eq, List.dropWhile_cons_of_neg (by simp [ha]), ← List.cons_append,
    List.rdropWhile_concat_neg _ _ _ (by simp [hb])]

theorem stripBoth_eq_nil_iff : stripBoth p cs = [] ↔ ∀ c ∈ cs, p c := by
  constructor
  · intro h
    by_contra hcs
    have hne : cs.dropWhile p ≠ [] := fun hnil => hcs (List.dropWhile_eq_nil_iff.1 hnil)
    have hstays : p ((cs.dropWhile p).head hne) = false := List.head_dropWhile_not p hne
    have hgoes := List.rdropWhile_eq_nil_iff.1 h _ (List.head_mem hne)
    rw [hstays] at hgoes
    cases hgoes
  · intro h
    rw [stripBoth_eq, List.dropWhile_eq_nil_iff.2 h, List.rdropWhile_nil]

/-! ## What stays -/

theorem exists_stripBoth (p : Char → Bool) (cs : List Char) :
    ∃ lead trail, cs = lead ++ (stripBoth p cs ++ trail) ∧ lead.all p = true ∧
      trail.all p = true := by
  refine ⟨cs.takeWhile p, ((cs.dropWhile p).reverse.takeWhile p).reverse, ?_, ?_, ?_⟩
  · rw [stripBoth, ← List.reverse_append, List.takeWhile_append_dropWhile,
      List.reverse_reverse, List.takeWhile_append_dropWhile]
  · exact List.all_takeWhile
  · rw [List.all_reverse]
    exact List.all_takeWhile

/-- What is left where some characters are taken off both ends, as far as these go. -/
structure Strips (p : Char → Bool) (cs inner : List Char) : Prop where
  split : ∃ lead trail, cs = lead ++ (inner ++ trail) ∧ (∀ c ∈ lead, p c) ∧ ∀ c ∈ trail, p c
  starts : ∀ c ∈ inner.head?, p c = false
  ends : ∀ c ∈ inner.getLast?, p c = false

theorem strips_stripBoth (p : Char → Bool) (cs : List Char) : Strips p cs (stripBoth p cs) := by
  obtain ⟨lead, trail, hcs, hlead, htrail⟩ := exists_stripBoth p cs
  refine ⟨⟨lead, trail, hcs, List.all_eq_true.1 hlead, List.all_eq_true.1 htrail⟩,
    fun c hc => ?_, fun c hc => ?_⟩
  · rw [← dropWhile_stripBoth] at hc
    have hstarts := List.head?_dropWhile_not p (stripBoth p cs)
    rw [hc] at hstarts
    simpa using hstarts
  · have hends := List.rdropWhile_eq_self_iff.1 (List.rdropWhile_idempotent p (cs.dropWhile p))
    rw [← stripBoth_eq] at hends
    obtain ⟨hne, rfl⟩ := List.mem_getLast?_eq_getLast hc
    simpa using hends hne

theorem strips_iff : Strips p cs inner ↔ stripBoth p cs = inner := by
  constructor
  · rintro ⟨⟨lead, trail, rfl, hlead, htrail⟩, hstarts, hends⟩
    rw [stripBoth_append_left hlead]
    cases inner with
    | nil => exact stripBoth_eq_nil_iff.2 (by simpa using htrail)
    | cons a inner =>
      rw [stripBoth, List.cons_append, List.dropWhile_cons_of_neg (by simp [hstarts a rfl]),
        ← List.cons_append, List.reverse_append,
        List.dropWhile_append_of_pos (by simpa using htrail)]
      exact List.rdropWhile_eq_self_iff.2 fun hne => by
        simp [hends _ (List.getLast?_eq_some_getLast hne)]
  · rintro rfl
    exact strips_stripBoth p cs

theorem strips_between {a b : Char} (hlead : ∀ c ∈ lead, p c) (ha : p a = false) (hb : p b = false)
    (cs : List Char) : Strips p (lead ++ a :: (cs ++ [b])) (a :: (cs ++ [b])) :=
  strips_iff.2 ((stripBoth_append_left hlead).trans (stripBoth_between ha hb cs))

/-- What is dropped in front of a character that stays does not reach behind it. -/
theorem dropWhile_append_of_exists (h : ∃ c ∈ cs, p c = false) (ds : List Char) :
    (cs ++ ds).dropWhile p = cs.dropWhile p ++ ds := by
  obtain ⟨c, hc, hp⟩ := h
  have hne : cs.dropWhile p ≠ [] := fun hnil => by
    simpa [hp] using List.dropWhile_eq_nil_iff.1 hnil c hc
  rw [List.dropWhile_append, if_neg (by simpa using hne)]

/-- Of the characters that can be trimmed, those stay that stand between two that cannot. -/
theorem mem_stripBoth_iff {c : Char} (hc : p c) : c ∈ stripBoth p cs ↔
    ∃ u v, cs = u ++ c :: v ∧ (∃ d ∈ u, p d = false) ∧ ∃ d ∈ v, p d = false := by
  constructor
  · intro h
    obtain ⟨lead, trail, hcs, -, -⟩ := exists_stripBoth p cs
    have hfirst := List.dropWhile_eq_self_iff.1 (dropWhile_stripBoth p cs)
    have hlast := List.rdropWhile_eq_self_iff.1 (List.rdropWhile_idempotent p (cs.dropWhile p))
    rw [← stripBoth_eq] at hlast
    obtain ⟨u, v, hsplit⟩ := List.append_of_mem h
    simp only [hsplit] at hcs hfirst hlast
    refine ⟨lead ++ u, v ++ trail, by simpa using hcs, ?_, ?_⟩
    · cases u with
      | nil => simp [hc] at hfirst
      | cons a u => exact ⟨a, by simp, by simpa using hfirst⟩
    · obtain rfl | ⟨v, b, rfl⟩ := List.eq_nil_or_concat v
      · simp [hc] at hlast
      · exact ⟨b, by simp, by simpa using hlast⟩
  · rintro ⟨u, v, rfl, hu, hv⟩
    have hv' : ∃ d ∈ v.reverse, p d = false := by simpa using hv
    rw [stripBoth, dropWhile_append_of_exists hu, List.reverse_append, List.reverse_cons,
      List.append_assoc, dropWhile_append_of_exists hv']
    simp

/-- Whether characters that can be trimmed are there makes no difference to what else stays. -/
theorem stripBoth_filter {q : Char → Bool} (h : ∀ c, q c = false → p c) (cs : List Char) :
    stripBoth p (cs.filter q) = (stripBoth p cs).filter q := by
  have hp : (fun c => !q c || p c) = p := by
    funext c
    have := h c
    cases hq : q c <;> simp_all
  simp only [stripBoth, List.dropWhile_filter, hp, ← List.filter_reverse]

end Typeset.Text
