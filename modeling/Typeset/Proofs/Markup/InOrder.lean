/-
Things that markup holds in order.

Each thing is written as a word, and the words stand in the markup one behind
the other. What stands between them ends in no backslash that would protect
what follows, so every word begins as it would alone. Markup that is put
together holds the things of its parts, whatever is put between these. A word
keeps to its line and has blank characters at neither end: so the words stay
where the lines are moved and where the markup is trimmed.
-/
import Typeset.Proofs.Markup.Delimited
import Typeset.Proofs.Text.Lines
import Typeset.Proofs.Text.Trimming

namespace Typeset

/-! ## Moved lines -/

namespace Text

/-- A text with the margin behind each of its line feeds. -/
def moved (level : Nat) (s : String) : String :=
  String.ofList (s.toList.flatMap fun c => if c == '\n' then c :: margin level else [c])

theorem indent_eq (level : Nat) (s : String) :
    indent level s = String.ofList (margin level) ++ moved level s := by
  rw [indent, shift, String.ofList_append, moved]

theorem moved_append (level : Nat) (s t : String) :
    moved level (s ++ t) = moved level s ++ moved level t := by
  simp [moved, String.ofList_append]

theorem moved_of_not_mem {s : String} (h : '\n' ∉ s.toList) (level : Nat) : moved level s = s := by
  have hself : s.toList.flatMap (fun c => if c == '\n' then c :: margin level else [c]) =
      s.toList.flatMap fun c => [c] := by
    refine List.flatMap_congr fun c hc => ?_
    have hne : c ≠ '\n' := ne_of_mem_of_not_mem hc h
    simp [hne]
  rw [moved, hself, List.flatMap_singleton', String.ofList_toList]

end Text

namespace Markup

open Text (isBlank isBlankText margin moved)

/-! ## Settled markup -/

/-- Markup that ends in no backslash which protects what follows. -/
def Settled (s : String) : Prop := protecting s.toList = false

instance (s : String) : Decidable (Settled s) := inferInstanceAs (Decidable (_ = _))

section

variable {s t front back : String} {c : Char}

theorem Settled.append (hs : Settled s) (ht : Settled t) : Settled (s ++ t) := by
  rw [Settled, String.toList_append, protecting_append hs]
  exact ht

theorem settled_append (hback : back.toList.getLast? = some c) (hc : c ≠ '\\') :
    Settled (s ++ back) := by
  obtain ⟨cs, hcs⟩ := List.getLast?_eq_some_iff.1 hback
  rw [Settled, String.toList_append, hcs, ← List.append_assoc, protecting_concat]
  simp [hc]

theorem protecting_of_not_mem {cs : List Char} (h : '\\' ∉ cs) : protecting cs = false := by
  induction cs using List.reverseRecOn with
  | nil => rfl
  | append_singleton cs c =>
    have hc : c ≠ '\\' := fun heq => h (by simp [heq])
    simp [protecting_concat, hc]

theorem settled_of_not_mem (h : '\\' ∉ s.toList) : Settled s := protecting_of_not_mem h

theorem not_mem_of_blank {cs : List Char} (h : cs.all isBlank = true) : '\\' ∉ cs := fun hmem =>
  absurd (List.all_eq_true.1 h _ hmem) (by decide)

theorem not_mem_margin (level : Nat) : '\\' ∉ margin level := by
  simp [margin]

theorem protecting_moved (level : Nat) (s : String) :
    protecting (moved level s).toList = protecting s.toList := by
  rw [moved, String.toList_ofList]
  induction s.toList using List.reverseRecOn with
  | nil => rfl
  | append_singleton cs c ih =>
    rw [List.flatMap_append, List.flatMap_singleton, protecting_concat]
    by_cases hc : c = '\n'
    · -- The margin stands behind a line feed, where nothing is protected.
      have hfeed (front : List Char) : protecting (front ++ ['\n']) = false := protecting_concat ..
      rw [hc, if_pos (beq_self_eq_true _), List.append_cons, protecting_append (hfeed _),
        protecting_of_not_mem (not_mem_margin level)]
      rfl
    · rw [if_neg (by simpa using hc), protecting_concat, ih]

theorem Settled.moved (h : Settled s) (level : Nat) : Settled (Text.moved level s) :=
  (protecting_moved level s).trans h

theorem Settled.indent (h : Settled s) (level : Nat) : Settled (Text.indent level s) := by
  rw [Text.indent_eq]
  exact (settled_of_not_mem (by simpa using not_mem_margin level)).append (h.moved level)

end

/-! ## Words -/

/-- A text on one line that has nothing to trim at either end, and protects nothing. -/
structure IsWord (word : String) : Prop where
  oneLine : '\n' ∉ word.toList
  begins : ∃ c cs, word.toList = c :: cs ∧ isBlank c = false
  ends : ∃ cs c, word.toList = cs ++ [c] ∧ isBlank c = false
  settled : Settled word

/-- The things are written in markup one behind the other, each as a word that nothing protects. -/
inductive InOrder {α : Type} (written : α → String) : List α → String → Prop
  | nil {s : String} : Settled s → InOrder written [] s
  | cons {front rest : String} {a : α} {as : List α} :
      Settled front → IsWord (written a) → InOrder written as rest →
        InOrder written (a :: as) (front ++ written a ++ rest)

section

variable {α : Type} {written : α → String} {as bs : List α} {s t front back : String}

namespace InOrder

theorem empty : InOrder written [] "" := .nil rfl

theorem settled (h : InOrder written as s) : Settled s := by
  induction h with
  | nil hs => exact hs
  | cons hfront hword _ ih => exact (hfront.append hword.settled).append ih

theorem behind (h : InOrder written as s) (hfront : Settled front) :
    InOrder written as (front ++ s) := by
  cases h with
  | nil hs => exact .nil (hfront.append hs)
  | cons hgap hword h =>
    rw [← String.append_assoc, ← String.append_assoc]
    exact .cons (hfront.append hgap) hword h

theorem append (h : InOrder written as s) (h' : InOrder written bs t) :
    InOrder written (as ++ bs) (s ++ t) := by
  induction h with
  | nil hs => exact h'.behind hs
  | cons hfront hword _ ih =>
    rw [String.append_assoc]
    exact .cons hfront hword ih

theorem before (h : InOrder written as s) (hback : Settled back) :
    InOrder written as (s ++ back) := by
  simpa using h.append (.nil hback)

theorem within (h : InOrder written as s) (hfront : Settled front) (hback : Settled back) :
    InOrder written as (front ++ s ++ back) :=
  (h.behind hfront).before hback

/-- A blank text holds nothing. -/
theorem eq_nil_of_isBlankText (h : InOrder written as s) (hs : isBlankText s = true) : as = [] := by
  cases h with
  | nil => rfl
  | cons _ hword =>
    obtain ⟨c, cs, hcs, hc⟩ := hword.begins
    simp [isBlankText, hcs, hc] at hs

/-- Words stay where the lines of a text are moved. -/
theorem indent (h : InOrder written as s) (level : Nat) :
    InOrder written as (Text.indent level s) := by
  rw [Text.indent_eq]
  refine behind ?_ (settled_of_not_mem (by simpa using not_mem_margin level))
  induction h with
  | nil hs => exact .nil (hs.moved level)
  | cons hfront hword _ ih =>
    rw [Text.moved_append, Text.moved_append, Text.moved_of_not_mem hword.oneLine level]
    exact .cons (hfront.moved level) hword ih

/-- Blank characters in front of a text hold no part of a word. -/
theorem of_blank_append {lead : List Char} (hlead : lead.all isBlank = true)
    (h : InOrder written as s) (hs : s.toList = lead ++ t.toList) : InOrder written as t := by
  have hsettled {cs : List Char} : protecting (lead ++ cs) = protecting cs :=
    protecting_append (protecting_of_not_mem (not_mem_of_blank hlead)) cs
  cases h with
  | nil hsettle =>
    rw [Settled, hs, hsettled] at hsettle
    exact .nil hsettle
  | @cons front rest a as hfront hword h =>
    rw [String.toList_append, String.toList_append, List.append_assoc] at hs
    obtain ⟨gap, rfl, hgap⟩ | ⟨gap, hgap, ht⟩ := List.append_eq_append_iff.1 hs
    · have ht : t = "" ++ written a ++ rest := by
        cases gap with
        | nil => simp [← String.toList_inj, hgap]
        | cons d gap =>
          -- The word would begin with a blank character.
          obtain ⟨c, cs, hcs, hc⟩ := hword.begins
          rw [hcs, List.cons_append] at hgap
          obtain ⟨rfl, -⟩ := List.cons.inj hgap
          simp [hc] at hlead
      exact ht ▸ .cons rfl hword h
    · have ht : t = String.ofList gap ++ written a ++ rest := by
        simp [← String.toList_inj, ht]
      rw [Settled, hgap, hsettled] at hfront
      exact ht ▸ .cons (by simpa [Settled] using hfront) hword h

/-- Blank characters behind a text hold no part of a word. A backslash that they leave behind
protects nothing where other markup follows. -/
theorem of_append_blank {trail : List Char} (htrail : trail.all isBlank = true)
    (hback : ∀ s, Settled (s ++ back)) (h : InOrder written as s)
    (hs : s.toList = t.toList ++ trail) : InOrder written as (t ++ back) := by
  induction h generalizing t with
  | nil => exact .nil (hback t)
  | @cons front rest a as hfront hword h ih =>
    rw [String.toList_append] at hs
    obtain ⟨gap, hgap, hrest⟩ | ⟨gap, hgap, rfl⟩ := List.append_eq_append_iff.1 hs
    · have ht : t ++ back = front ++ written a ++ (String.ofList gap ++ back) := by
        simp [← String.toList_inj, hgap]
      exact ht ▸ .cons hfront hword (ih (by simpa using hrest))
    · have ht : t ++ back = front ++ written a ++ ("" ++ back) := by
        obtain rfl | ⟨gap, d, rfl⟩ := List.eq_nil_or_concat gap
        · rw [List.append_nil] at hgap
          simp [← String.toList_inj, ← hgap]
        · -- The word would end with a blank character.
          obtain ⟨cs, c, hcs, hc⟩ := hword.ends
          rw [String.toList_append, hcs, List.concat_eq_append, ← List.append_assoc,
            ← List.append_assoc] at hgap
          obtain ⟨-, hcd⟩ := List.append_inj' hgap rfl
          obtain rfl : c = d := by simpa using hcd
          simp [hc] at htrail
      have hnone : as = [] := by
        refine h.eq_nil_of_isBlankText ?_
        rw [List.all_append, Bool.and_eq_true] at htrail
        exact htrail.2
      exact ht ▸ hnone ▸ .cons hfront hword (.nil (hback ""))

theorem trimBlanks (h : InOrder written as s) (hback : ∀ s, Settled (s ++ back)) :
    InOrder written as (Text.trimBlanks s ++ back) := by
  obtain ⟨lead, trail, hs, hlead, htrail⟩ := Text.exists_stripBoth isBlank s.toList
  have hrest : InOrder written as (String.ofList (Text.stripBoth isBlank s.toList ++ trail)) :=
    h.of_blank_append hlead (by rw [String.toList_ofList, ← hs])
  exact hrest.of_append_blank htrail hback
    (by rw [Text.toList_trimBlanks, String.toList_ofList])

end InOrder

end

/-! ## Parts -/

/-- The things are written in parts of a text one behind the other, and none goes over two parts. -/
inductive AllInOrder {α : Type} (written : α → String) : List α → List String → Prop
  | nil : AllInOrder written [] []
  | cons {as bs : List α} {s : String} {parts : List String} :
      InOrder written as s → AllInOrder written bs parts →
        AllInOrder written (as ++ bs) (s :: parts)

namespace AllInOrder

variable {α β : Type} {written : α → String} {as bs : List α} {parts parts' : List String}
  {s : String} {xs : List β} {f : β → List α}

theorem single (h : InOrder written as s) : AllInOrder written as [s] :=
  List.append_nil as ▸ cons h nil

theorem append (h : AllInOrder written as parts) (h' : AllInOrder written bs parts') :
    AllInOrder written (as ++ bs) (parts ++ parts') := by
  induction h with
  | nil => exact h'
  | cons hs _ ih => exact List.append_assoc .. ▸ cons hs ih

theorem flatMap {g : β → List String} (h : ∀ x ∈ xs, AllInOrder written (f x) (g x)) :
    AllInOrder written (xs.flatMap f) (xs.flatMap g) := by
  induction xs with
  | nil => exact nil
  | cons x xs ih =>
    rw [List.flatMap_cons, List.flatMap_cons]
    exact (h x List.mem_cons_self).append (ih fun y hy => h y (List.mem_cons_of_mem x hy))

theorem map {g : β → String} (h : ∀ x ∈ xs, InOrder written (f x) (g x)) :
    AllInOrder written (xs.flatMap f) (xs.map g) := by
  rw [List.map_eq_flatMap]
  exact flatMap fun x hx => single (h x hx)

/-- A part that is not there or empty holds nothing. -/
theorem ofOption {part : Option String} (h : InOrder written as (part.getD "")) (keep : Bool) :
    AllInOrder written as (part.toList.filter fun s => keep || !s.isEmpty) := by
  cases part with
  | none => exact h.eq_nil_of_isBlankText rfl ▸ nil
  | some s =>
    by_cases hs : (keep || !s.isEmpty) = true
    · simpa [hs] using single h
    · obtain ⟨-, rfl⟩ : keep = false ∧ s = "" := by simpa using hs
      have hnone : as = [] := h.eq_nil_of_isBlankText rfl
      simpa [hs, hnone] using nil

theorem joinWith (h : AllInOrder written as parts) {separator : String}
    (hseparator : Settled separator) : InOrder written as (Text.joinWith separator parts) := by
  induction h with
  | nil => exact .empty
  | cons hs hparts ih =>
    cases hparts with
    | nil => simpa [Text.joinWith] using hs
    | cons => exact (hs.before hseparator).append ih

theorem joinNonEmpty {g : β → Option String} (h : ∀ x ∈ xs, InOrder written (f x) ((g x).getD ""))
    {separator : String} (hseparator : Settled separator) :
    InOrder written (xs.flatMap f) (Text.joinNonEmpty separator (xs.map g)) := by
  have hparts : ((xs.map g).filterMap id).filter (!·.isEmpty) =
      xs.flatMap fun x => (g x).toList.filter fun s => false || !s.isEmpty := by
    rw [List.filterMap_map, List.filterMap_eq_flatMap_toList, List.filter_flatMap]
    rfl
  rw [Text.joinNonEmpty, hparts]
  exact (flatMap fun x hx => ofOption (h x hx) false).joinWith hseparator

end AllInOrder

end Markup

end Typeset
