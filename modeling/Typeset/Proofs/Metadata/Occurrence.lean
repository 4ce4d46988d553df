/-
The first occurrence of each field.

A title or a language is the first value that is not empty, and the authors are
those of the first line that sets them, in whichever of the three forms. Each
field is told apart from the lines that it does not come from: other keys,
items, and carriage returns at the end of a line change nothing.
-/
import Typeset.Proofs.Metadata.Field

namespace Typeset.Frontmatter

variable {keys : List String} {line rest : List Char} {lines after : List (List Char)}
  {key value : String} {names : List String} {raw raw' : String}

/-! ## Scalars -/

/-- A line has one of some keys. -/
def HasKeyIn (keys : List String) (line : List Char) : Prop :=
  ∃ key ∈ keys, ∃ rest, HasKey line key rest

/-- A line writes a value: it has one of some keys, and the rest of it unquotes to the value. -/
def Writes (keys : List String) (line : List Char) (value : String) : Prop :=
  ∃ key ∈ keys, ∃ rest, HasKey line key rest ∧ Unquotes rest value.toList

/-- A scalar is read from the first line that writes a value for it that is not empty, and it is
unset exactly if nothing stands behind any of its keys. -/
structure ReadsScalar (keys : List String) (lines : List (List Char)) (field : Option String) :
    Prop where
  first : ∀ value, value ≠ "" → (field = some value ↔ ∃ before line after,
    lines = before ++ line :: after ∧ Writes keys line value ∧
      ∀ l ∈ before, ∀ w, Writes keys l w → w = "")
  unset : field = none ↔ ∀ line ∈ lines, ∀ key ∈ keys, ∀ rest, HasKey line key rest → rest = []

theorem isSome_rest?_iff : (rest? keys line).isSome ↔ HasKeyIn keys line := by
  simp only [Option.isSome_iff_exists, rest?_eq_some_iff, HasKeyIn]
  constructor
  · rintro ⟨rest, key, hkey, h⟩
    exact ⟨key, hkey, rest, h⟩
  · rintro ⟨key, hkey, rest, h⟩
    exact ⟨rest, key, hkey, h⟩

instance : DecidablePred (HasKeyIn keys) := fun _ => decidable_of_iff _ isSome_rest?_iff

theorem value?_eq_some_iff : value? keys line = some value ↔ Writes keys line value := by
  simp only [value?, Option.map_eq_some_iff, rest?_eq_some_iff, Writes, unquotes_toList_iff]
  constructor
  · rintro ⟨rest, ⟨key, hkey, h⟩, hvalue⟩
    exact ⟨key, hkey, rest, h, hvalue⟩
  · rintro ⟨key, hkey, rest, h, hvalue⟩
    exact ⟨rest, ⟨key, hkey, h⟩, hvalue⟩

theorem filter_value?_eq_none_iff :
    (value? keys line).filter (· ≠ "") = none ↔ ∀ value, Writes keys line value → value = "" := by
  simp [Option.filter_eq_none_iff, value?_eq_some_iff]

theorem firstValue?_eq_none_iff : firstValue? keys lines = none ↔
    ∀ line ∈ lines, ∀ value, Writes keys line value → value = "" := by
  simp only [firstValue?, List.findSome?_eq_none_iff, filter_value?_eq_none_iff]

theorem ne_of_firstValue? (h : firstValue? keys lines = some value) : value ≠ "" := by
  obtain ⟨line, -, hline⟩ := List.exists_of_findSome?_eq_some h
  simpa using (Option.filter_eq_some_iff.1 hline).2

theorem firstValue?_eq_some_iff (hne : value ≠ "") : firstValue? keys lines = some value ↔
    ∃ before line after, lines = before ++ line :: after ∧ Writes keys line value ∧
      ∀ l ∈ before, ∀ w, Writes keys l w → w = "" := by
  simp only [firstValue?, List.findSome?_eq_some_iff, filter_value?_eq_none_iff,
    Option.filter_eq_some_iff, value?_eq_some_iff, decide_eq_true_eq, hne, ne_eq, not_false_eq_true,
    and_true]

theorem isWritten_eq_false_iff : isWritten keys lines = false ↔
    ∀ line ∈ lines, ∀ key ∈ keys, ∀ rest, HasKey line key rest → rest = [] := by
  have hline : ∀ line, (rest? keys line).any (!·.isEmpty) = false ↔
      ∀ key ∈ keys, ∀ rest, HasKey line key rest → rest = [] := by
    intro line
    have hrest : (rest? keys line).any (!·.isEmpty) = false ↔
        ∀ rest, rest? keys line = some rest → rest = [] := by
      cases rest? keys line <;> simp
    rw [hrest]
    constructor
    · intro h key hkey rest hk
      exact h rest (rest?_eq_some_iff.2 ⟨key, hkey, hk⟩)
    · intro h rest hr
      obtain ⟨key, hkey, hk⟩ := rest?_eq_some_iff.1 hr
      exact h key hkey rest hk
  simp only [isWritten, List.any_eq_false, Bool.not_eq_true, hline]

theorem firstValue?_of_not_isWritten (h : isWritten keys lines = false) :
    firstValue? keys lines = none := by
  rw [firstValue?_eq_none_iff]
  rintro line hline value ⟨key, hkey, rest, hrest, hvalue⟩
  obtain rfl := isWritten_eq_false_iff.1 h line hline key hkey rest hrest
  exact (unquotes_toList_iff.1 hvalue).symm

/-- **A scalar is read from its first effective line.** -/
theorem readsScalar_foldl (keys : List String) (lines : List (List Char)) :
    ReadsScalar keys lines (lines.foldl (setBy keys) none) := by
  rw [foldl_setBy (by decide)]
  constructor
  · intro value hne
    rw [← firstValue?_eq_some_iff hne]
    cases firstValue? keys lines with
    | some v => rfl
    | none =>
      rw [Option.none_or]
      split <;> simp [hne.symm]
  · rw [← isWritten_eq_false_iff]
    cases hw : isWritten keys lines with
    | true => simp
    | false => simp [firstValue?_of_not_isWritten hw]

/-- Lines without one of the keys change nothing. -/
theorem foldl_setBy_filter (keys : List String) (lines : List (List Char)) (field : Option String) :
    (lines.filter (HasKeyIn keys ·)).foldl (setBy keys) field = lines.foldl (setBy keys) field := by
  have hskip : ∀ field line, (if HasKeyIn keys line then setBy keys field line else field) =
      setBy keys field line := by
    intro field line
    split
    · rfl
    · rename_i h
      have hnone : rest? keys line = none := by
        rwa [← isSome_rest?_iff, Option.not_isSome_iff_eq_none] at h
      rw [setBy, hnone]
  simp only [List.foldl_filter, decide_eq_true_eq, hskip]

/-! ## Authors -/

/-- The values of some texts in their order, those that are empty left out. -/
def Values (texts : List (List Char)) (names : List String) : Prop :=
  ∃ values : List String, List.Forall₂ (fun text value => Unquotes text value.toList) texts values ∧
    names = values.filter (· ≠ "")

/-- The values that are found in some texts. -/
def valuesOf (texts : List (List Char)) : List String :=
  (texts.map fun text => unquote (String.ofList text)).filter (· ≠ "")

theorem values_iff {texts : List (List Char)} : Values texts names ↔ names = valuesOf texts := by
  have hmap (values : List String) :
      List.Forall₂ (fun text value => Unquotes text value.toList) texts values ↔
        texts.map (fun text => unquote (String.ofList text)) = values := by
    simp only [unquotes_toList_iff, ← List.forall₂_eq_eq_eq, List.forall₂_map_left_iff]
  simp only [Values, hmap, exists_eq_left', valuesOf]

/-- A line sets the authors: it has the key of one author with something behind it, or that of
several. -/
def SetsAuthors (line : List Char) : Prop :=
  (∃ rest, HasKey line "author" rest ∧ rest ≠ []) ∨ ∃ rest, HasKey line "authors" rest

/-- The authors that a line sets, with some lines behind it. -/
inductive Names (line : List Char) (after : List (List Char)) : List String → Prop where
  | author {rest : List Char} {names : List String} : HasKey line "author" rest → rest ≠ [] →
    Values [rest] names → Names line after names
  /-- A value that is not in brackets. -/
  | bare {rest : List Char} {names : List String} : HasKey line "authors" rest →
    ¬ (∀ c ∈ rest, Text.isBlank c) →
    (∀ inner, ¬ Text.Strips Text.isBlank rest ('[' :: (inner ++ [']']))) →
    Values [rest] names → Names line after names
  /-- What stands in brackets, between commas. -/
  | bracketed {rest inner : List Char} {names : List String} : HasKey line "authors" rest →
    Text.Strips Text.isBlank rest ('[' :: (inner ++ [']'])) →
    Values (inner.splitOn ',') names → Names line after names
  /-- Without a value, the items that follow, as far as they go. -/
  | items {rest : List Char} {items texts others : List (List Char)} {names : List String} :
    HasKey line "authors" rest → (∀ c ∈ rest, Text.isBlank c) → after = items ++ others →
    List.Forall₂ IsItem items texts → (∀ l ∈ others.head?, ∀ text, ¬ IsItem l text) →
    Values texts names → Names line after names

/-- The authors are those of the first line that sets them, and they are unset where there is no
such line. -/
structure ReadsAuthors (lines : List (List Char)) (authors : Option (List String)) : Prop where
  first : ∀ names, authors = some names ↔ ∃ before line after,
    lines = before ++ line :: after ∧ Names line after names ∧ ∀ l ∈ before, ¬ SetsAuthors l
  unset : authors = none ↔ ∀ line ∈ lines, ¬ SetsAuthors line

theorem HasKey.not_setsAuthors (h : HasKey line key rest) (hkey : key ∉ ["author", "authors"]) :
    ¬ SetsAuthors line := by
  rintro (⟨rest', h', -⟩ | ⟨rest', h'⟩)
  · exact hkey (by simp [h.key_eq h'])
  · exact hkey (by simp [h.key_eq h'])

theorem nonEmpty_map_unquoteChars (texts : List (List Char)) :
    nonEmpty (texts.map unquoteChars) = valuesOf texts := by
  induction texts with
  | nil => rfl
  | cons text texts ih =>
    rw [valuesOf, nonEmpty] at *
    by_cases hempty : unquoteChars text = []
    · simpa [unquote, hempty] using ih
    · simpa [unquote, hempty] using ih

theorem inlineList_bracketed (inner : List Char) :
    inlineList ('[' :: (inner ++ [']'])) = valuesOf (inner.splitOn ',') := by
  rw [← nonEmpty_map_unquoteChars]
  simp [inlineList]

theorem unquoteChars_stripBoth (cs : List Char) :
    unquoteChars (Text.stripBoth Text.isBlank cs) = unquoteChars cs := by
  simp only [unquoteChars, Text.stripBoth_stripBoth]

theorem inlineList_bare {cs : List Char}
    (h : ∀ inner, ¬ Text.Strips Text.isBlank cs ('[' :: (inner ++ [']']))) :
    inlineList (Text.stripBoth Text.isBlank cs) = valuesOf [cs] := by
  have hone : nonEmpty [unquoteChars (Text.stripBoth Text.isBlank cs)] = valuesOf [cs] := by
    rw [unquoteChars_stripBoth, ← nonEmpty_map_unquoteChars]
    rfl
  unfold inlineList
  split
  · rename_i rest hcs
    split
    · rename_i hlast
      have hrest := List.dropLast_append_getLast? ']' (by simpa using hlast)
      exact absurd (Text.strips_iff.2 (hrest ▸ hcs)) (h _)
    · exact hone
  · exact hone

theorem names?_of_author (h : HasKey line "author" rest) (after : List (List Char)) :
    names? line after = if rest = [] then none else some (valuesOf [rest]) := by
  rw [← nonEmpty_map_unquoteChars]
  simp [names?, h.splitKey?]

theorem names?_of_authors (h : HasKey line "authors" rest) (after : List (List Char)) :
    names? line after = if Text.stripBoth Text.isBlank rest = [] then
      some (valuesOf (listItems after).1)
    else some (inlineList (Text.stripBoth Text.isBlank rest)) := by
  rw [← nonEmpty_map_unquoteChars]
  simp [names?, h.splitKey?]

theorem names?_of_neither (hauthor : ∀ rest, ¬ HasKey line "author" rest)
    (hauthors : ∀ rest, ¬ HasKey line "authors" rest) (after : List (List Char)) :
    names? line after = none := by
  unfold names?
  split
  · rename_i key rest hsplit
    have hk := splitKey?_eq_some_iff.1 hsplit
    have hne : String.ofList key ≠ "author" := fun hkey => hauthor rest (hkey ▸ hk)
    have hne' : String.ofList key ≠ "authors" := fun hkey => hauthors rest (hkey ▸ hk)
    rw [if_neg hne, if_neg hne']
  · rfl

/-- **The authors that a line sets** are read in one of four ways. -/
theorem names?_eq_some_iff : names? line after = some names ↔ Names line after names := by
  constructor
  · intro h
    by_cases hauthor : ∃ rest, HasKey line "author" rest
    · obtain ⟨rest, hk⟩ := hauthor
      rw [names?_of_author hk] at h
      split at h
      · cases h
      · rename_i hne
        exact .author hk hne (values_iff.2 (Option.some.inj h).symm)
    by_cases hauthors : ∃ rest, HasKey line "authors" rest
    · obtain ⟨rest, hk⟩ := hauthors
      rw [names?_of_authors hk] at h
      split at h
      · rename_i hblank
        obtain ⟨items, hafter, hitems, hstop⟩ := exists_items after
        exact .items hk (Text.stripBoth_eq_nil_iff.1 hblank) hafter hitems hstop
          (values_iff.2 (Option.some.inj h).symm)
      · rename_i hvalue
        obtain rfl := Option.some.inj h
        by_cases hbrackets : ∃ inner, Text.Strips Text.isBlank rest ('[' :: (inner ++ [']']))
        · obtain ⟨inner, hinner⟩ := hbrackets
          refine .bracketed hk hinner (values_iff.2 ?_)
          rw [Text.strips_iff.1 hinner, inlineList_bracketed]
        · refine .bare hk (mt Text.stripBoth_eq_nil_iff.2 hvalue) (not_exists.1 hbrackets)
            (values_iff.2 ?_)
          rw [inlineList_bare (not_exists.1 hbrackets)]
    · rw [names?_of_neither (not_exists.1 hauthor) (not_exists.1 hauthors)] at h
      cases h
  · intro h
    cases h with
    | author hk hne hnames => rw [names?_of_author hk, if_neg hne, values_iff.1 hnames]
    | bare hk hvalue hbrackets hnames =>
      rw [names?_of_authors hk, if_neg (mt Text.stripBoth_eq_nil_iff.1 hvalue),
        inlineList_bare hbrackets, values_iff.1 hnames]
    | bracketed hk hinner hnames =>
      rw [names?_of_authors hk, Text.strips_iff.1 hinner, if_neg (List.cons_ne_nil _ _),
        inlineList_bracketed, values_iff.1 hnames]
    | items hk hblank hafter hitems hstop hnames =>
      rw [names?_of_authors hk, if_pos (Text.stripBoth_eq_nil_iff.2 hblank), hafter,
        listItems_append hitems hstop, values_iff.1 hnames]

theorem names?_eq_none_iff : names? line after = none ↔ ¬ SetsAuthors line := by
  constructor
  · rintro h (⟨rest, hk, hne⟩ | ⟨rest, hk⟩)
    · rw [names?_of_author hk, if_neg hne] at h
      cases h
    · rw [names?_of_authors hk] at h
      split at h <;> cases h
  · intro h
    by_cases hauthor : ∃ rest, HasKey line "author" rest
    · obtain ⟨rest, hk⟩ := hauthor
      rw [names?_of_author hk, if_pos]
      by_contra hne
      exact h (.inl ⟨rest, hk, hne⟩)
    · exact names?_of_neither (not_exists.1 hauthor) (fun rest hk => h (.inr ⟨rest, hk⟩)) after

theorem firstNames?_eq_some_iff : firstNames? lines = some names ↔ ∃ before line after,
    lines = before ++ line :: after ∧ Names line after names ∧ ∀ l ∈ before, ¬ SetsAuthors l := by
  induction lines with
  | nil => simp [firstNames?]
  | cons line lines ih =>
    rw [firstNames?, Option.or_eq_some_iff, names?_eq_some_iff, names?_eq_none_iff, ih]
    constructor
    · rintro (h | ⟨hskip, before, l, after, rfl, h, hbefore⟩)
      · exact ⟨[], line, lines, rfl, h, by simp⟩
      · exact ⟨line :: before, l, after, rfl, h, List.forall_mem_cons.2 ⟨hskip, hbefore⟩⟩
    · rintro ⟨before, l, after, hlines, h, hbefore⟩
      cases before with
      | nil =>
        obtain ⟨rfl, rfl⟩ := List.cons.inj hlines
        exact .inl h
      | cons b before =>
        obtain ⟨rfl, rfl⟩ := List.cons.inj hlines
        obtain ⟨hskip, hbefore⟩ := List.forall_mem_cons.1 hbefore
        exact .inr ⟨hskip, before, l, after, rfl, h, hbefore⟩

theorem firstNames?_eq_none_iff :
    firstNames? lines = none ↔ ∀ line ∈ lines, ¬ SetsAuthors line := by
  induction lines with
  | nil => simp [firstNames?]
  | cons line lines ih =>
    rw [firstNames?, Option.or_eq_none_iff, names?_eq_none_iff, ih, List.forall_mem_cons]

/-- **The authors are read from the first line that sets them.** -/
theorem readsAuthors_firstNames? (lines : List (List Char)) :
    ReadsAuthors lines (firstNames? lines) :=
  ⟨fun _ => firstNames?_eq_some_iff, firstNames?_eq_none_iff⟩

/-! ## Blocks -/

/-- Two texts are the same line by line, but for carriage returns at the end of a line. -/
def SameButReturns (raw raw' : String) : Prop :=
  List.Forall₂ (fun a b => ∃ line m n, a = line ++ List.replicate m '\r' ∧
    b = line ++ List.replicate n '\r') (raw.toList.splitOn '\n') (raw'.toList.splitOn '\n')

theorem SameButReturns.linesOf_eq (h : SameButReturns raw raw') : linesOf raw = linesOf raw' := by
  rw [linesOf, linesOf, ← List.forall₂_eq_eq_eq, List.forall₂_map_left_iff,
    List.forall₂_map_right_iff]
  refine h.imp ?_
  rintro _ _ ⟨line, m, n, rfl, rfl⟩
  rw [dropReturns_append, dropReturns_append]

/-- **Fields are read from their first effective occurrence,** in the lines of the block. -/
theorem read_first_occurrences (raw : String) : ∃ lines, (∀ ls, HasLines raw ls ↔ ls = lines) ∧
    ReadsScalar ["title"] lines (read raw).title ∧
    ReadsScalar ["lang", "language"] lines (read raw).lang ∧
    ReadsAuthors lines (read raw).authors ∧
    (∀ raw' lines', HasLines raw' lines' →
      lines'.filter (HasKeyIn ["title"] ·) = lines.filter (HasKeyIn ["title"] ·) →
      (read raw').title = (read raw).title) ∧
    (∀ raw' lines', HasLines raw' lines' →
      lines'.filter (HasKeyIn ["lang", "language"] ·) =
        lines.filter (HasKeyIn ["lang", "language"] ·) →
      (read raw').lang = (read raw).lang) ∧
    ∀ raw', SameButReturns raw raw' → read raw' = read raw := by
  refine ⟨linesOf raw, fun _ => hasLines_iff, ?_, ?_, ?_, fun raw' lines' hlines h => ?_,
    fun raw' lines' hlines h => ?_, fun raw' h => ?_⟩
  · rw [read_eq]
    exact readsScalar_foldl _ _
  · rw [read_eq]
    exact readsScalar_foldl _ _
  · rw [read_eq]
    exact readsAuthors_firstNames? _
  · obtain rfl := hasLines_iff.1 hlines
    simp only [read_eq]
    rw [← foldl_setBy_filter, h, foldl_setBy_filter]
  · obtain rfl := hasLines_iff.1 hlines
    simp only [read_eq]
    rw [← foldl_setBy_filter, h, foldl_setBy_filter]
  · rw [read_eq, read_eq, h.linesOf_eq]

/-- Line feeds with and without returns in front of them. The title in quotes is the first one that
is not empty. -/
theorem read_mixed_line_ends :
    SameButReturns "title:\r\ntitle: ' A '\nlang: en\n" "title:\ntitle: ' A '\r\r\nlang: en\n" ∧
    read "title:\ntitle: ' A '\r\r\nlang: en\n" = read "title:\r\ntitle: ' A '\nlang: en\n" ∧
    (read "title:\r\ntitle: ' A '\nlang: en\n").title = some "A" := by
  have h : SameButReturns "title:\r\ntitle: ' A '\nlang: en\n"
      "title:\ntitle: ' A '\r\r\nlang: en\n" :=
    .cons ⟨"title:".toList, 1, 0, by decide, by decide⟩
      (.cons ⟨"title: ' A '".toList, 0, 2, by decide, by decide⟩
        (.cons ⟨"lang: en".toList, 0, 0, by decide, by decide⟩ (.cons ⟨[], 0, 0, rfl, rfl⟩ .nil)))
  obtain ⟨lines, hlines, htitle, -, -, -, -, hsame⟩ :=
    read_first_occurrences "title:\r\ntitle: ' A '\nlang: en\n"
  obtain rfl := (hlines _).1 (hasLines_iff.2 rfl)
  have hwrites : Writes ["title"] "title: ' A '".toList "A" := value?_eq_some_iff.1 (by decide)
  have hempty : value? ["title"] "title:".toList = some "" := by decide
  refine ⟨h, hsame _ h, (htitle.first "A" (by decide)).2 ⟨["title:".toList],
    "title: ' A '".toList, ["lang: en".toList, []], by decide, hwrites, ?_⟩⟩
  rintro l hl w hw
  obtain rfl := List.mem_singleton.1 hl
  exact Option.some.inj ((value?_eq_some_iff.2 hw).symm.trans hempty)

end Typeset.Frontmatter
