/-
The pieces of a text are the only ones.

Cutting gives plain pieces and spans that write the text again. A span ends as
soon as it can, no span opens in a plain piece, and plain pieces do not meet.
No other nodes have all of this, so it may stand for the cutting itself.
-/
import Typeset.Proofs.Spans.Cutting

namespace Typeset.Spans

/-- What a node of a text writes: a text as it stands, a span its content between two delimiters. -/
def spell : Inline → List Char
  | .text value => value.toList
  | .superscript [.text content] => '^' :: (content.toList ++ ['^'])
  | .subscript [.text content] => '~' :: (content.toList ++ ['~'])
  | _ => []

/-- What nodes write one behind the other. -/
def spellAll (nodes : List Inline) : List Char := nodes.flatMap spell

/-- The content of a span that `d` delimits: characters of one line, where `d` may be the first and
stands nowhere else. -/
structure Content (d : Char) (content : List Char) : Prop where
  ne_nil : content ≠ []
  onLine : ∀ c ∈ content, c ≠ '\r' ∧ c ≠ '\n'
  shortest : d ∉ content.tail

/-- A node of a text: a plain piece, or a span with its content as one text. -/
inductive IsPiece : Inline → Prop where
  | plain {value : String} : value ≠ "" → IsPiece (.text value)
  | superscript {content : String} : Content '^' content.toList →
    IsPiece (.superscript [.text content])
  | subscript {content : String} : Content '~' content.toList → IsPiece (.subscript [.text content])

/-- Nodes are the pieces of a text, from left to right. -/
structure Decomposes (cs : List Char) (nodes : List Inline) : Prop where
  written : spellAll nodes = cs
  pieces : ∀ i ∈ nodes, IsPiece i
  /-- No two plain pieces meet. -/
  apart : ∀ before a b after, nodes ≠ before ++ .text a :: .text b :: after
  /-- A delimiter in a plain piece opens no span of the text that stands from there on. -/
  leftmost : ∀ before piece after, nodes = before ++ .text piece :: after →
    ∀ front d rest, piece.toList = front ++ d :: rest → d = '^' ∨ d = '~' →
      ¬ Closes d (rest ++ spellAll after)

/-! ## Where a span ends -/

theorem not_mem_of_upTo {d : Char} {cs content rest : List Char}
    (h : upTo d cs = some (content, rest)) : d ∉ content := by
  induction cs generalizing content with
  | nil => simp [upTo] at h
  | cons c cs ih =>
    unfold upTo at h
    split at h
    · simp only [Option.some.injEq, Prod.mk.injEq] at h
      simp [← h.1]
    · rename_i hc
      split at h
      · cases h
      · simp only [Option.map_eq_some_iff, Prod.exists, Prod.mk.injEq] at h
        obtain ⟨a, b, hab, rfl, rfl⟩ := h
        have hne : d ≠ c := fun he => hc (by simp [he])
        simp [hne, ih hab]

theorem upTo_append {d : Char} (content rest : List Char) (hd : d ∉ content)
    (hline : ∀ c ∈ content, c ≠ '\r' ∧ c ≠ '\n') :
    upTo d (content ++ d :: rest) = some (content, rest) := by
  induction content with
  | nil => simp [upTo]
  | cons c content ih =>
    have hne : (c == d) = false := by
      rw [beq_eq_false_iff_ne]
      exact fun he => hd (by simp [he])
    have hc := endsLine_eq_false.2 (hline c (by simp))
    have htail := ih (fun h => hd (by simp [h])) fun x hx => hline x (by simp [hx])
    simp [upTo, hne, hc, htail]

/-- **A span ends at the first delimiter** behind one or more characters of its line. -/
theorem content?_eq_some_iff {d : Char} {cs content rest : List Char} :
    content? d cs = some (content, rest) ↔ cs = content ++ d :: rest ∧ Content d content := by
  constructor
  · intro h
    obtain ⟨hcs, hne, hline⟩ := content?_eq_some h
    refine ⟨hcs, hne, hline, ?_⟩
    cases cs with
    | nil => simp [content?] at h
    | cons c cs =>
      simp only [content?] at h
      split at h
      · cases h
      · simp only [Option.map_eq_some_iff, Prod.exists, Prod.mk.injEq] at h
        obtain ⟨a, b, hab, rfl, -⟩ := h
        exact not_mem_of_upTo hab
  · rintro ⟨rfl, hne, hline, hd⟩
    obtain ⟨c, content, rfl⟩ := List.exists_cons_of_ne_nil hne
    have hc := endsLine_eq_false.2 (hline c (by simp))
    have htail := upTo_append content rest hd fun x hx => hline x (by simp [hx])
    simp [content?, hc, htail]

/-! ## One node after another -/

theorem spellAll_cons (i : Inline) (nodes : List Inline) :
    spellAll (i :: nodes) = spell i ++ spellAll nodes := List.flatMap_cons

theorem spell_node {d : Char} (hd : d = '^' ∨ d = '~') (content : List Char) :
    spell (node d content) = d :: (content ++ [d]) := by
  rcases hd with rfl | rfl <;> simp [node, spell]

theorem isPiece_node {d : Char} {content : List Char} (hd : d = '^' ∨ d = '~')
    (h : Content d content) : IsPiece (node d content) := by
  rcases hd with rfl | rfl
  · exact .superscript (by simpa using h)
  · exact .subscript (by simpa using h)

theorem IsPiece.plain_or_node {i : Inline} (h : IsPiece i) :
    (∃ value, value ≠ "" ∧ i = .text value) ∨
      ∃ d content, (d = '^' ∨ d = '~') ∧ Content d content ∧ i = node d content := by
  cases h with
  | plain hne => exact .inl ⟨_, hne, rfl⟩
  | superscript hc => exact .inr ⟨'^', _, .inl rfl, hc, by simp [node]⟩
  | subscript hc => exact .inr ⟨'~', _, .inr rfl, hc, by simp [node]⟩

theorem node_ne_text {d : Char} {content : List Char} {value : String} :
    node d content ≠ .text value := by
  unfold node
  split <;> simp

/-- Nodes that begin with a text. -/
def BeginsPlain (nodes : List Inline) : Prop := ∃ value after, nodes = .text value :: after

theorem not_beginsPlain_nil : ¬ BeginsPlain [] := fun ⟨_, _, h⟩ => nomatch h

theorem not_beginsPlain_node {d : Char} {content : List Char} {nodes : List Inline} :
    ¬ BeginsPlain (node d content :: nodes) := fun ⟨_, _, h⟩ => node_ne_text (List.cons.inj h).1

namespace Decomposes

variable {cs content : List Char} {nodes : List Inline} {i : Inline} {d : Char}

theorem nil : Decomposes [] [] where
  written := rfl
  pieces _ h := by cases h
  apart before _ _ _ := by cases before <;> simp
  leftmost before _ _ h := by cases before <;> cases h

/-- The nodes behind the first one are the pieces of what they write. -/
theorem tail (h : Decomposes cs (i :: nodes)) : Decomposes (spellAll nodes) nodes where
  written := rfl
  pieces j hj := h.pieces j (List.mem_cons_of_mem i hj)
  apart before a b after he := h.apart (i :: before) a b after (by rw [he, List.cons_append])
  leftmost before piece after he :=
    h.leftmost (i :: before) piece after (by rw [he, List.cons_append])

/-- A span in front of what is cut already. -/
theorem cons_node (hd : d = '^' ∨ d = '~') (hc : Content d content) (h : Decomposes cs nodes) :
    Decomposes (d :: (content ++ d :: cs)) (node d content :: nodes) where
  written := by simp [spellAll_cons, spell_node hd, h.written]
  pieces j hj := by
    rcases List.mem_cons.1 hj with rfl | hj
    · exact isPiece_node hd hc
    · exact h.pieces j hj
  apart before a b after he := by
    cases before with
    | nil => exact node_ne_text (List.cons.inj he).1
    | cons i before => exact h.apart before a b after (List.cons.inj he).2
  leftmost before piece after he := by
    cases before with
    | nil => exact absurd (List.cons.inj he).1 node_ne_text
    | cons i before => exact h.leftmost before piece after (List.cons.inj he).2

theorem cons_text (value : String) (hne : value ≠ "") (hp : Passed value.toList.reverse cs)
    (hb : ¬ BeginsPlain nodes) (h : Decomposes cs nodes) :
    Decomposes (value.toList ++ cs) (.text value :: nodes) where
  written := by rw [spellAll_cons, h.written, spell]
  pieces j hj := by
    rcases List.mem_cons.1 hj with rfl | hj
    · exact .plain hne
    · exact h.pieces j hj
  apart before a b after he := by
    cases before with
    | nil => exact hb ⟨b, after, (List.cons.inj he).2⟩
    | cons i before => exact h.apart before a b after (List.cons.inj he).2
  leftmost before piece after he := by
    cases before with
    | nil =>
      obtain ⟨hvalue, rfl⟩ := List.cons.inj he
      obtain rfl := Inline.text.inj hvalue
      intro front d rest hpiece hd
      rw [h.written]
      exact hp front d rest (by rw [List.reverse_reverse, hpiece]) hd
    | cons i before => exact h.leftmost before piece after (List.cons.inj he).2

theorem plain_append {reversed : List Char} (hp : Passed reversed cs) (hb : ¬ BeginsPlain nodes)
    (h : Decomposes cs nodes) : Decomposes (reversed.reverse ++ cs) (plain reversed ++ nodes) := by
  unfold plain
  split
  · rename_i hempty
    obtain rfl := List.isEmpty_iff.1 hempty
    exact h
  · rename_i hne
    have htext := h.cons_text (String.ofList reversed.reverse) (by simpa using hne)
      (by simpa using hp) hb
    simpa using htext

/-- Cutting gives the pieces of a text, whatever has been passed. -/
theorem cutFrom {reversed : List Char} (hp : Passed reversed cs) :
    Decomposes (reversed.reverse ++ cs) (cutFrom reversed cs) := by
  fun_induction Spans.cutFrom reversed cs with
  | case1 reversed => simpa using nil.plain_append hp not_beginsPlain_nil
  | case2 reversed c cs hc content rest hcr ih =>
    obtain ⟨rfl, hcontent⟩ := content?_eq_some_iff.1 hcr
    have hspan := (ih (.nil rest)).cons_node (isDelimiter_iff.1 hc) hcontent
    exact hspan.plain_append hp not_beginsPlain_node
  | case3 reversed c cs hc hn ih =>
    simpa using ih (hp.cons fun _ => not_closes_of_content? hn)
  | case4 reversed c cs hc ih =>
    simpa using ih (hp.cons fun hd => absurd (isDelimiter_iff.2 hd) hc)

end Decomposes

/-! ## The only pieces -/

theorem cutFrom_span {d : Char} (hd : d = '^' ∨ d = '~') {content : List Char}
    (hc : Content d content) (reversed rest : List Char) :
    cutFrom reversed (d :: (content ++ d :: rest)) =
      plain reversed ++ node d content :: cutFrom [] rest := by
  have hfound : content? d (content ++ d :: rest) = some (content, rest) :=
    content?_eq_some_iff.2 ⟨rfl, hc⟩
  rw [cutFrom, if_pos (isDelimiter_iff.2 hd)]
  split
  · rename_i hcr
    rw [hfound] at hcr
    obtain ⟨rfl, rfl⟩ := Prod.mk.inj (Option.some.inj hcr)
    rfl
  · rename_i hn
    rw [hfound] at hn
    cases hn

/-- Characters in which no span opens are passed. -/
theorem cutFrom_append {piece rest : List Char} (reversed : List Char)
    (hp : ∀ front d after, piece = front ++ d :: after → d = '^' ∨ d = '~' →
      ¬ Closes d (after ++ rest)) :
    cutFrom reversed (piece ++ rest) = cutFrom (piece.reverse ++ reversed) rest := by
  induction piece generalizing reversed with
  | nil => rfl
  | cons c piece ih =>
    have hrest := ih (c :: reversed) fun front d after he =>
      hp (c :: front) d after (by rw [he, List.cons_append])
    have hskip : cutFrom reversed (c :: (piece ++ rest)) =
        cutFrom (c :: reversed) (piece ++ rest) := by
      rw [cutFrom]
      split
      · rename_i hc
        split
        · rename_i content behind hcr
          refine absurd ⟨content, behind, ?_⟩ (hp [] c piece rfl (isDelimiter_iff.1 hc))
          exact content?_eq_some hcr
        · rfl
      · rfl
    rw [List.cons_append, hskip, hrest, List.reverse_cons, List.append_assoc, List.singleton_append]

/-- **Pieces are what cutting gives.** Passed characters may stand before them, but not before a
plain piece, which would be longer then. -/
theorem Decomposes.cutFrom_eq {cs : List Char} {nodes : List Inline} (h : Decomposes cs nodes)
    (reversed : List Char) (hb : BeginsPlain nodes → reversed = []) :
    Spans.cutFrom reversed cs = plain reversed ++ nodes := by
  induction nodes generalizing cs reversed with
  | nil =>
    obtain rfl : [] = cs := h.written
    rw [Spans.cutFrom, List.append_nil]
  | cons i nodes ih =>
    rcases (h.pieces i List.mem_cons_self).plain_or_node with
      ⟨value, hne, rfl⟩ | ⟨d, content, hd, hc, rfl⟩
    · obtain rfl := hb ⟨value, nodes, rfl⟩
      have hlast : ¬ BeginsPlain nodes := by
        rintro ⟨next, after, rfl⟩
        exact h.apart [] value next after rfl
      rw [← h.written, spellAll_cons, spell, cutFrom_append [] (h.leftmost [] value nodes rfl),
        List.append_nil, ih h.tail _ fun hb => absurd hb hlast]
      simp [plain, hne]
    · rw [← h.written, spellAll_cons, spell_node hd, List.cons_append, List.append_assoc,
        List.singleton_append, cutFrom_span hd hc, ih h.tail [] fun _ => rfl]
      rfl

/-- **The pieces of a text are the only ones.** Written one behind the other they are the text.
Plain pieces are not empty, do not meet, and no span of the text opens in them. Spans are not empty,
stay on their line, and end as soon as they can. Whatever nodes have all of this are the pieces that
cutting gives. -/
theorem decomposes_iff (value : String) (nodes : List Inline) :
    Decomposes value.toList nodes ↔ nodes = splitText value := by
  constructor
  · intro h
    exact (h.cutFrom_eq [] fun _ => rfl).symm
  · rintro rfl
    exact .cutFrom (.nil value.toList)

end Typeset.Spans
