/-
Lines of a metadata block.

A line has a key if one word stands in front of its first colon, and it is an
item if a dash with a text behind it comes first. An item has no key but one
that begins with the dash. The value of a text is what stands between its quotes,
or else the text itself, without the blank characters around it.
-/
import Mathlib.Data.List.Forall2
import Typeset.Metadata.Frontmatter
import Typeset.Proofs.Text.Lines
import Typeset.Proofs.Text.Trimming

namespace Typeset.Frontmatter

variable {line rest rest' text cs inner value : List Char} {key key' raw : String}
  {lines others : List (List Char)}

/-! ## Lines -/

/-- A line, and how it is written: with any number of carriage returns at its end. -/
structure WrittenAs (line written : List Char) : Prop where
  returns : ∃ n, written = line ++ List.replicate n '\r'
  ends : line.getLast? ≠ some '\r'

/-- The lines of a metadata block: as they are written, with line feeds between them and none in
them, they make the block. -/
def HasLines (raw : String) (lines : List (List Char)) : Prop :=
  ∃ written, written ≠ [] ∧ (∀ w ∈ written, '\n' ∉ w) ∧ raw.toList = ['\n'].intercalate written ∧
    List.Forall₂ WrittenAs lines written

/-- The lines of a metadata block, without the carriage returns that end them. -/
def linesOf (raw : String) : List (List Char) := (raw.toList.splitOn '\n').map dropReturns

theorem linesOf_of_toList {raw : String} (hraw : raw.toList = ['\n'].intercalate lines)
    (hne : lines ≠ []) (h : ∀ l ∈ lines, '\n' ∉ l) : linesOf raw = lines.map dropReturns := by
  rw [linesOf, hraw, List.splitOn_intercalate '\n' h hne]

theorem dropReturns_append (line : List Char) (n : Nat) :
    dropReturns (line ++ List.replicate n '\r') = dropReturns line := by
  have hreturns : ∀ c ∈ List.replicate n '\r', (c == '\r') = true := by simp
  rw [dropReturns, List.reverse_append, List.reverse_replicate,
    List.dropWhile_append_of_pos hreturns, dropReturns]

theorem WrittenAs.dropReturns_eq {written : List Char} (h : WrittenAs line written) :
    dropReturns written = line := by
  obtain ⟨n, rfl⟩ := h.returns
  rw [dropReturns_append]
  exact List.rdropWhile_eq_self_iff.2 fun hne hc =>
    h.ends (by simpa [List.getLast?_eq_some_getLast hne] using hc)

theorem writtenAs_dropReturns (written : List Char) :
    WrittenAs (dropReturns written) written := by
  have hsplit : dropReturns written ++ written.rtakeWhile (· == '\r') = written :=
    List.rdropWhile_append_rtakeWhile ..
  have hreturns : written.rtakeWhile (· == '\r') =
      List.replicate (written.rtakeWhile (· == '\r')).length '\r' :=
    List.eq_replicate_iff.2 ⟨rfl, fun c hc => by simpa using List.mem_rtakeWhile_imp hc⟩
  refine ⟨⟨_, by rw [← hreturns, hsplit]⟩, fun hlast => ?_⟩
  obtain ⟨hne, hc⟩ := List.mem_getLast?_eq_getLast hlast
  exact List.rdropWhile_last_not _ _ hne (beq_iff_eq.2 hc.symm)

/-- **A block has its lines** and no others. -/
theorem hasLines_iff : HasLines raw lines ↔ lines = linesOf raw := by
  constructor
  · rintro ⟨written, hne, hfeeds, hraw, h⟩
    rw [linesOf_of_toList hraw hne hfeeds, ← List.forall₂_eq_eq_eq, List.forall₂_map_right_iff]
    exact h.imp fun _ _ hw => hw.dropReturns_eq.symm
  · rintro rfl
    refine ⟨raw.toList.splitOn '\n', List.splitOn_ne_nil _ _,
      fun w hw => Text.not_mem_of_mem_splitOn hw, (List.intercalate_splitOn '\n').symm, ?_⟩
    rw [linesOf, List.forall₂_map_left_iff, List.forall₂_same]
    exact fun w _ => writtenAs_dropReturns w

/-! ## Values -/

/-- The value that characters write: what stands between two equal quotes, or else all of them,
without the blank characters around it. -/
inductive Unquotes (cs : List Char) : List Char → Prop
  | quoted {q : Char} {inner value : List Char} : q ∈ ['\"', '\''] →
    Text.Strips Text.isBlank cs (q :: (inner ++ [q])) → Text.Strips Text.isBlank inner value →
    Unquotes cs value
  | bare {value : List Char} : Text.Strips Text.isBlank cs value →
    (∀ q ∈ ['\"', '\''], ∀ inner, value ≠ q :: (inner ++ [q])) → Unquotes cs value

theorem quoted?_eq_some_iff {q : Char} : quoted? q cs = some inner ↔ cs = q :: (inner ++ [q]) := by
  cases cs with
  | nil => simp [quoted?]
  | cons c cs =>
    simp only [quoted?, Option.ite_none_right_eq_some, Bool.and_eq_true, beq_iff_eq,
      Option.some.injEq, List.cons.injEq, and_assoc, and_congr_right_iff]
    rintro rfl
    constructor
    · rintro ⟨hlast, rfl⟩
      exact (List.dropLast_append_getLast? c hlast).symm
    · rintro rfl
      simp

theorem unquoteChars_of_quoted {q : Char} (hq : q ∈ ['\"', '\''])
    (h : Text.stripBoth Text.isBlank cs = q :: (inner ++ [q])) :
    unquoteChars cs = Text.stripBoth Text.isBlank inner := by
  have hfound : quoted? q (q :: (inner ++ [q])) = some inner := quoted?_eq_some_iff.2 rfl
  rcases List.mem_pair.1 hq with rfl | rfl
  · simp only [unquoteChars, h, hfound, Option.some_or]
  · have hother : quoted? '\"' ('\'' :: (inner ++ ['\''])) = none := rfl
    simp only [unquoteChars, h, hfound, hother, Option.none_or]

theorem unquoteChars_of_bare
    (h : ∀ q ∈ ['\"', '\''], ∀ inner, Text.stripBoth Text.isBlank cs ≠ q :: (inner ++ [q])) :
    unquoteChars cs = Text.stripBoth Text.isBlank cs := by
  have hnone : ∀ q ∈ ['\"', '\''], quoted? q (Text.stripBoth Text.isBlank cs) = none :=
    fun q hq => Option.eq_none_iff_forall_ne_some.2 fun inner hinner =>
      h q hq inner (quoted?_eq_some_iff.1 hinner)
  have hdouble := hnone '\"' (by simp)
  have hsingle := hnone '\'' (by simp)
  simp only [unquoteChars, hdouble, hsingle, Option.or_none]

/-- **The value of characters** is what they unquote to. -/
theorem unquotes_iff : Unquotes cs value ↔ unquoteChars cs = value := by
  constructor
  · rintro (⟨hq, hcs, hinner⟩ | ⟨hcs, hbare⟩)
    · rw [unquoteChars_of_quoted hq (Text.strips_iff.1 hcs), Text.strips_iff.1 hinner]
    · obtain rfl := Text.strips_iff.1 hcs
      exact unquoteChars_of_bare hbare
  · rintro rfl
    by_cases h : ∃ q ∈ ['\"', '\''], ∃ inner, Text.stripBoth Text.isBlank cs = q :: (inner ++ [q])
    · obtain ⟨q, hq, inner, hinner⟩ := h
      rw [unquoteChars_of_quoted hq hinner]
      exact .quoted hq (Text.strips_iff.2 hinner) (Text.strips_stripBoth _ _)
    · have hbare : ∀ q ∈ ['\"', '\''], ∀ inner,
          Text.stripBoth Text.isBlank cs ≠ q :: (inner ++ [q]) :=
        fun q hq inner hinner => h ⟨q, hq, inner, hinner⟩
      rw [unquoteChars_of_bare hbare]
      exact .bare (Text.strips_stripBoth _ _) hbare

theorem unquotes_toList_iff {value : String} :
    Unquotes cs value.toList ↔ unquote (String.ofList cs) = value := by
  rw [unquotes_iff, unquote, String.toList_ofList, ← String.toList_inj, String.toList_ofList]

/-! ## Keys -/

/-- A line has a key, with the rest of the line behind the first colon. The key is one word, and
blank characters may stand around it. -/
def HasKey (line : List Char) (key : String) (rest : List Char) : Prop :=
  ∃ before, line = before ++ ':' :: rest ∧ ':' ∉ before ∧
    Text.stripBoth Text.isBlank before = key.toList ∧ key ≠ "" ∧ ∀ c ∈ key.toList, ¬ Text.isBlank c

/-- A line is an item: blank characters, a dash, and a text of one or more characters. -/
def IsItem (line text : List Char) : Prop :=
  ∃ lead, line = lead ++ '-' :: text ∧ (∀ c ∈ lead, Text.isBlank c) ∧ text ≠ []

theorem splitKey?_of_not_mem (h : ':' ∉ line) : splitKey? line = none := by
  have hline : line.dropWhile (· != ':') = [] :=
    List.dropWhile_eq_nil_iff.2 fun c hc => bne_iff_ne.2 (ne_of_mem_of_not_mem hc h)
  rw [splitKey?, hline]

/-- What stands before the first colon is the key, if it is one word. -/
theorem splitKey?_append {before : List Char} (h : ':' ∉ before) (rest : List Char) :
    splitKey? (before ++ ':' :: rest) =
      if (Text.stripBoth Text.isBlank before).isEmpty ||
          (Text.stripBoth Text.isBlank before).any Text.isBlank then none
      else some (Text.stripBoth Text.isBlank before, rest) := by
  have hbefore : ∀ c ∈ before, (c != ':') = true :=
    fun c hc => bne_iff_ne.2 (ne_of_mem_of_not_mem hc h)
  have htake : (before ++ ':' :: rest).takeWhile (· != ':') = before := by
    simp [List.takeWhile_append_of_pos hbefore]
  have hdrop : (before ++ ':' :: rest).dropWhile (· != ':') = ':' :: rest := by
    simp [List.dropWhile_append_of_pos hbefore]
  rw [splitKey?, hdrop, htake]

/-- **The key of a line, and what follows it,** are found where they stand. -/
theorem splitKey?_eq_some_iff {cs : List Char} :
    splitKey? line = some (cs, rest) ↔ HasKey line (String.ofList cs) rest := by
  constructor
  · intro h
    by_cases hcolon : ':' ∈ line
    · obtain ⟨before, after, rfl, hbefore⟩ := List.eq_append_cons_of_mem hcolon
      rw [splitKey?_append hbefore] at h
      split at h
      · cases h
      · rename_i hword
        obtain ⟨rfl, rfl⟩ := Prod.mk.inj (Option.some.inj h)
        simp only [Bool.or_eq_true, not_or, List.isEmpty_iff, List.any_eq_true, not_exists,
          not_and] at hword
        exact ⟨before, rfl, hbefore, by simp, by simpa using hword.1, by simpa using hword.2⟩
    · rw [splitKey?_of_not_mem hcolon] at h
      cases h
  · rintro ⟨before, rfl, hbefore, hstrip, hne, hword⟩
    rw [String.toList_ofList] at hstrip hword
    rw [splitKey?_append hbefore, hstrip, if_neg]
    simpa using ⟨by simpa using hne, by simpa using hword⟩

theorem HasKey.splitKey? (h : HasKey line key rest) : splitKey? line = some (key.toList, rest) :=
  splitKey?_eq_some_iff.2 (by simpa using h)

theorem HasKey.append (h : HasKey line key rest) (more : List Char) :
    HasKey (line ++ more) key (rest ++ more) := by
  obtain ⟨before, rfl, h⟩ := h
  exact ⟨before, by simp, h⟩

theorem HasKey.key_eq (h : HasKey line key rest) (h' : HasKey line key' rest') : key = key' := by
  have hsplit := Option.some.inj (h.splitKey?.symm.trans h'.splitKey?)
  exact String.toList_injective (Prod.mk.inj hsplit).1

/-! ## Items -/

theorem isBlank_dash : Text.isBlank '-' = false := by decide

theorem isBlank_colon : Text.isBlank ':' = false := by decide

/-- **The text of an item** is found where it stands. -/
theorem listItem?_eq_some_iff : listItem? line = some text ↔ IsItem line text := by
  constructor
  · intro h
    have hsplit := List.takeWhile_append_dropWhile (p := Text.isBlank) (l := line)
    unfold listItem? at h
    split at h
    · rename_i c rest hdrop
      obtain rfl := Option.some.inj h
      rw [hdrop] at hsplit
      exact ⟨line.takeWhile Text.isBlank, hsplit.symm, fun _ => List.mem_takeWhile_imp, by simp⟩
    · cases h
  · rintro ⟨lead, rfl, hlead, hne⟩
    obtain ⟨c, rest, rfl⟩ := List.exists_cons_of_ne_nil hne
    have hdrop : (lead ++ '-' :: c :: rest).dropWhile Text.isBlank = '-' :: c :: rest := by
      rw [List.dropWhile_append_of_pos hlead, List.dropWhile_cons_of_neg (by simp [isBlank_dash])]
    simp only [listItem?, hdrop]

/-- The key of an item, if it has one, begins with the dash. -/
theorem IsItem.head?_key (h : IsItem line text) (hk : HasKey line key rest) :
    key.toList.head? = some '-' := by
  obtain ⟨lead, rfl, hlead, -⟩ := h
  obtain ⟨before, hline, hbefore, hstrip, -⟩ := hk
  obtain ⟨after, rfl⟩ : ∃ after, before = lead ++ '-' :: after := by
    rcases List.append_eq_append_iff.1 hline with ⟨as, rfl, has⟩ | ⟨as, rfl, has⟩
    · cases as with
      | nil => simp at has
      | cons c as =>
        obtain ⟨rfl, -⟩ := List.cons.inj has
        exact ⟨as, rfl⟩
    · cases as with
      | nil => simp at has
      | cons c as =>
        obtain ⟨rfl, -⟩ := List.cons.inj has
        have hblank := hlead ':' (by simp)
        rw [isBlank_colon] at hblank
        cases hblank
  obtain ⟨tail, htail⟩ := Text.exists_stripBoth_cons isBlank_dash after
  rw [← hstrip, Text.stripBoth_append_left hlead, htail, List.head?_cons]

theorem exists_items (lines : List (List Char)) :
    ∃ items, lines = items ++ (listItems lines).2 ∧
      List.Forall₂ IsItem items (listItems lines).1 ∧
      ∀ line ∈ (listItems lines).2.head?, ∀ text, ¬ IsItem line text := by
  induction lines with
  | nil => exact ⟨[], rfl, .nil, by simp [listItems]⟩
  | cons line lines ih =>
    obtain ⟨items, hlines, hitems, hstop⟩ := ih
    unfold listItems
    split
    · rename_i text hitem
      exact ⟨line :: items, by rw [List.cons_append, ← hlines],
        .cons (listItem?_eq_some_iff.1 hitem) hitems, hstop⟩
    · rename_i hitem
      refine ⟨[], rfl, .nil, fun l hl text ht => ?_⟩
      obtain rfl : line = l := by simpa using hl
      rw [listItem?_eq_some_iff.2 ht] at hitem
      cases hitem

theorem isItem_of_mem {items texts : List (List Char)} (h : List.Forall₂ IsItem items texts) :
    ∀ line ∈ items, ∃ text, IsItem line text := by
  induction h with
  | nil => simp
  | cons hitem _ ih => exact List.forall_mem_cons.2 ⟨⟨_, hitem⟩, ih⟩

/-- **The items at the start of some lines** are all that stand there. -/
theorem listItems_append {items texts : List (List Char)} (hitems : List.Forall₂ IsItem items texts)
    (hstop : ∀ line ∈ others.head?, ∀ text, ¬ IsItem line text) :
    listItems (items ++ others) = (texts, others) := by
  induction hitems with
  | nil =>
    cases others with
    | nil => rfl
    | cons line others =>
      have hline : listItem? line = none :=
        Option.eq_none_iff_forall_ne_some.2 fun text ht =>
          hstop line rfl text (listItem?_eq_some_iff.1 ht)
      rw [List.nil_append, listItems, hline]
  | cons hitem _ ih => simp only [List.cons_append, listItems, listItem?_eq_some_iff.2 hitem, ih]

end Typeset.Frontmatter
