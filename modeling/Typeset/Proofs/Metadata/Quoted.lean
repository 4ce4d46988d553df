/-
Values in quotes.

A block that writes its values in quotes is read back as it was meant. Only the
first colon of a line and the outermost quotes are looked at, so a value may
hold both, and brackets and dashes as well. The authors may stand one to a line
or all in brackets, where a comma would tear a name apart.
-/
import Typeset.Proofs.Metadata.Occurrence

namespace Typeset.Frontmatter

variable {key value lang title raw : String} {lines authors : List String}
  {line : List Char} {after : List (List Char)}

/-- A value on one line. It is not empty, and no blank character stands at its ends. -/
structure Plain (value : String) : Prop where
  ne : value ≠ ""
  trimmed : Text.trimBlanks value = value
  oneLine : '\n' ∉ value.toList

def quoted (value : String) : String := "\"" ++ value ++ "\""

def scalarLine (key value : String) : String := key ++ ": " ++ quoted value

def itemLine (value : String) : String := "- " ++ quoted value

/-- All authors on one line. -/
def authorsLine (authors : List String) : String :=
  "authors: [" ++ ", ".intercalate (authors.map quoted) ++ "]"

/-- A block with one line for each author. -/
def itemForm (lang title : String) (authors : List String) : List String :=
  [scalarLine "lang" lang, scalarLine "title" title, "authors:"] ++ authors.map itemLine

/-- A block with one line for all authors. -/
def lineForm (lang title : String) (authors : List String) : List String :=
  [scalarLine "lang" lang, scalarLine "title" title, authorsLine authors]

/-- Lines with a line feed between any two, and some behind the last. -/
def written (lines : List String) (n : Nat) : String :=
  "\n".intercalate (lines ++ List.replicate n "")

/-! ## Values -/

theorem isBlank_quote : Text.isBlank '"' = false := by decide

theorem isBlank_lead : ∀ c ∈ [' '], Text.isBlank c := List.forall_mem_singleton.2 (by decide)

theorem toList_quoted (value : String) :
    (quoted value).toList = '"' :: (value.toList ++ ['"']) := by
  simp [quoted]

theorem Plain.stripBoth_toList (h : Plain value) :
    Text.stripBoth Text.isBlank value.toList = value.toList := by
  rw [← Text.toList_trimBlanks, h.trimmed]

/-- **A value in quotes** unquotes to itself. The quotes inside it stay. -/
theorem Plain.unquotes_quoted (h : Plain value) (lead : List Char)
    (hlead : ∀ c ∈ lead, Text.isBlank c) :
    Unquotes (lead ++ (quoted value).toList) value.toList := by
  -- One pair of quotes goes, also where the value ends in a quote itself.
  have hquotes := Text.strips_between hlead isBlank_quote isBlank_quote value.toList
  rw [toList_quoted]
  exact .quoted (by simp) hquotes (Text.strips_iff.2 h.stripBoth_toList)

theorem values_of_plain {texts : List (List Char)} (hplain : ∀ a ∈ authors, Plain a)
    (h : List.Forall₂ (fun text a => Unquotes text a.toList) texts authors) :
    Values texts authors :=
  ⟨authors, h, (List.filter_eq_self.2 fun a ha => decide_eq_true (hplain a ha).ne).symm⟩

/-! ## Lines -/

theorem hasKey_colon : ∀ key ∈ ["lang", "title", "authors"], HasKey (key ++ ":").toList key [] := by
  have hword : ∀ key ∈ ["lang", "title", "authors"], ':' ∉ key.toList ∧
      Text.stripBoth Text.isBlank key.toList = key.toList ∧ key ≠ "" ∧
      key.toList.all (!Text.isBlank ·) := by decide
  intro key hkey
  obtain ⟨hcolon, hstrip, hne, hblank⟩ := hword key hkey
  exact ⟨key.toList, by simp, hcolon, hstrip, hne, by simpa using hblank⟩

theorem hasKey_scalarLine (key value : String) (hkey : key ∈ ["lang", "title", "authors"]) :
    HasKey (scalarLine key value).toList key (' ' :: (quoted value).toList) := by
  simpa [scalarLine] using (hasKey_colon key hkey).append (' ' :: (quoted value).toList)

theorem Plain.writes_scalarLine {keys : List String} (h : Plain value) (hkeys : key ∈ keys)
    (hkey : key ∈ ["lang", "title", "authors"]) :
    Writes keys (scalarLine key value).toList value :=
  ⟨key, hkeys, _, hasKey_scalarLine key value hkey, h.unquotes_quoted [' '] isBlank_lead⟩

/-- **The two scalars in front of the authors** are read, and hide no author. -/
theorem read_of_linesOf (hlang : Plain lang) (htitle : Plain title)
    (hlines : linesOf raw =
      (scalarLine "lang" lang).toList :: (scalarLine "title" title).toList :: line :: after)
    (hnames : Names line after authors) :
    read raw = { lang := some lang, title := some title, authors := some authors } := by
  have hl := hasKey_scalarLine "lang" lang (by decide)
  have ht := hasKey_scalarLine "title" title (by decide)
  have hreadLang : (linesOf raw).foldl (setBy ["lang", "language"]) none = some lang := by
    exact ((readsScalar_foldl _ _).first lang hlang.ne).2
      ⟨[], _, _, hlines, hlang.writes_scalarLine (by simp) (by decide), by simp⟩
  have hreadTitle : (linesOf raw).foldl (setBy ["title"]) none = some title := by
    refine ((readsScalar_foldl _ _).first title htitle.ne).2
      ⟨[_], _, _, hlines, htitle.writes_scalarLine (by simp) (by decide), ?_⟩
    -- The language comes first, and its line has another key.
    rintro l hline w ⟨key, hkey, rest, hk, -⟩
    rw [List.mem_singleton] at hkey hline
    subst hkey hline
    exact absurd (hl.key_eq hk) (by decide)
  have hreadAuthors : firstNames? (linesOf raw) = some authors := by
    refine firstNames?_eq_some_iff.2 ⟨[_, _], line, after, hlines, hnames, ?_⟩
    intro l hline
    simp only [List.mem_cons, List.not_mem_nil, or_false] at hline
    rcases hline with rfl | rfl
    · exact hl.not_setsAuthors (by decide)
    · exact ht.not_setsAuthors (by decide)
  rw [read_eq, hreadLang, hreadTitle, hreadAuthors]

/-! ## Authors -/

/-- **One item for each author.** -/
theorem names_items (hplain : ∀ a ∈ authors, Plain a) (n : Nat) :
    Names "authors:".toList (authors.map (fun a => (itemLine a).toList) ++ List.replicate n [])
      authors := by
  have hvalues : Values (authors.map fun a => ' ' :: (quoted a).toList) authors := by
    refine values_of_plain hplain (List.forall₂_map_left_iff.2 (List.forall₂_same.2 fun a ha => ?_))
    exact (hplain a ha).unquotes_quoted [' '] isBlank_lead
  have hitems : List.Forall₂ IsItem (authors.map fun a => (itemLine a).toList)
      (authors.map fun a => ' ' :: (quoted a).toList) := by
    rw [List.forall₂_map_left_iff, List.forall₂_map_right_iff]
    exact List.forall₂_same.2 fun a _ => ⟨[], by simp [itemLine], by simp, by simp⟩
  have hstop : ∀ l ∈ (List.replicate n ([] : List Char)).head?, ∀ text, ¬ IsItem l text := by
    rintro l hl text ⟨lead, hline, -⟩
    obtain rfl : l = [] := List.eq_of_mem_replicate (List.mem_of_mem_head? hl)
    simp at hline
  exact .items (hasKey_colon "authors" (by decide)) (by simp) rfl hitems hstop hvalues

/-- A blank behind each comma is a blank in front of each text but the first. -/
theorem intercalate_comma_blank (text : List Char) (texts : List (List Char)) :
    [',', ' '].intercalate (text :: texts) =
      [','].intercalate (text :: texts.map (' ' :: ·)) := by
  induction texts generalizing text with
  | nil => rfl
  | cons next texts ih =>
    rw [List.intercalate_cons_cons, ih, List.map_cons, List.intercalate_cons_cons,
      List.intercalate_cons_cons_left]
    simp

/-- **All authors in brackets.** A comma stands between any two, and only there. -/
theorem values_brackets (hplain : ∀ a ∈ authors, Plain a)
    (hcomma : ∀ a ∈ authors, ',' ∉ a.toList) :
    Values ((", ".intercalate (authors.map quoted)).toList.splitOn ',') authors := by
  cases authors with
  | nil => exact values_iff.2 rfl
  | cons a authors =>
    have hinner : (", ".intercalate ((a :: authors).map quoted)).toList = [','].intercalate
        ((quoted a).toList :: authors.map fun a => ' ' :: (quoted a).toList) := by
      simp [String.toList_intercalate, intercalate_comma_blank, Function.comp_def]
    rw [hinner, List.splitOn_intercalate]
    · refine values_of_plain hplain (.cons ?_ (List.forall₂_map_left_iff.2 (List.forall₂_same.2 ?_)))
      · exact (hplain a (by simp)).unquotes_quoted [] (by simp)
      · exact fun b hb => (hplain b (by simp [hb])).unquotes_quoted [' '] isBlank_lead
    · simpa [toList_quoted] using hcomma
    · simp

theorem names_authorsLine (hplain : ∀ a ∈ authors, Plain a)
    (hcomma : ∀ a ∈ authors, ',' ∉ a.toList) (after : List (List Char)) :
    Names (authorsLine authors).toList after authors := by
  have hk : HasKey (authorsLine authors).toList "authors"
      (' ' :: '[' :: ((", ".intercalate (authors.map quoted)).toList ++ [']'])) := by
    simpa [authorsLine] using (hasKey_colon "authors" (by decide)).append _
  exact .bracketed hk (Text.strips_between isBlank_lead (by decide) (by decide) _)
    (values_brackets hplain hcomma)

/-! ## Blocks -/

theorem not_mem_intercalate {c : Char} {sep : List Char} (hsep : c ∉ sep)
    {texts : List (List Char)} (h : ∀ text ∈ texts, c ∉ text) : c ∉ sep.intercalate texts := by
  induction texts with
  | nil => simp
  | cons text texts ih =>
    obtain ⟨htext, htexts⟩ := List.forall_mem_cons.1 h
    cases texts with
    | nil => simpa using htext
    | cons next texts =>
      rw [List.intercalate_cons_cons]
      simpa using ⟨htext, hsep, ih htexts⟩

/-- A line holds no line feed and does not end in a carriage return. -/
structure IsLine (line : String) : Prop where
  oneLine : '\n' ∉ line.toList
  kept : dropReturns line.toList = line.toList

theorem isLine_of_toList {before : List Char} {c : Char} {line : String} (h : '\n' ∉ before)
    (hc : c ∉ ['\n', '\r']) (hline : line.toList = before ++ [c]) : IsLine line := by
  obtain ⟨hfeed, hreturn⟩ : c ≠ '\n' ∧ c ≠ '\r' := by simpa using hc
  constructor
  · rw [hline]
    simpa using ⟨h, hfeed.symm⟩
  · rw [hline]
    exact List.rdropWhile_concat_neg _ _ _ (by simpa using hreturn)

theorem isLine_append_quoted {before : String} (hbefore : '\n' ∉ before.toList) (h : Plain value) :
    IsLine (before ++ quoted value) := by
  have hfeed : '\n' ∉ before.toList ++ '"' :: value.toList := by simpa using ⟨hbefore, h.oneLine⟩
  have hquote : '"' ∉ ['\n', '\r'] := by decide
  exact isLine_of_toList hfeed hquote (by simp [quoted])

theorem isLine_authorsLine (hplain : ∀ a ∈ authors, Plain a) : IsLine (authorsLine authors) := by
  have hinner : '\n' ∉ (", ".intercalate (authors.map quoted)).toList := by
    rw [String.toList_intercalate]
    refine not_mem_intercalate (by decide) ?_
    simpa [toList_quoted] using fun a ha => (hplain a ha).oneLine
  have hfeed : '\n' ∉ "authors: [".toList ++ (", ".intercalate (authors.map quoted)).toList := by
    simpa using hinner
  have hbracket : ']' ∉ ['\n', '\r'] := by decide
  exact isLine_of_toList hfeed hbracket (by simp [authorsLine])

theorem linesOf_written (h : ∀ l ∈ lines, IsLine l) (hne : lines ≠ []) (n : Nat) :
    linesOf (written lines n) = lines.map String.toList ++ List.replicate n [] := by
  rw [linesOf_of_toList (by rw [written, String.toList_intercalate]; rfl) (by simp [hne])]
  · rw [List.map_append, List.map_append, List.map_map, List.map_replicate, List.map_replicate]
    congr 1
    exact List.map_congr_left fun l hl => (h l hl).kept
  · simp only [List.map_append, List.map_replicate, List.forall_mem_append, List.forall_mem_map]
    refine ⟨fun l hl => (h l hl).oneLine, fun l hl => ?_⟩
    simp [List.eq_of_mem_replicate hl]

/-- **A block in quotes reads back,** in either form. All authors on one line read back where no
comma is part of a name. -/
theorem read_written (lang title : String) (authors : List String)
    (h : ∀ value ∈ lang :: title :: authors, Plain value) (n : Nat) :
    read (written (itemForm lang title authors) n) =
      { lang := some lang, title := some title, authors := some authors } ∧
    ((∀ a ∈ authors, ',' ∉ a.toList) →
      read (written (lineForm lang title authors) n) =
        { lang := some lang, title := some title, authors := some authors } ∧
      (read (written [authorsLine authors] n)).authors = some authors) := by
  obtain ⟨hlang, htitle, hauthors⟩ : Plain lang ∧ Plain title ∧ ∀ a ∈ authors, Plain a := by
    simpa using h
  have hlangLine : IsLine (scalarLine "lang" lang) := isLine_append_quoted (by decide) hlang
  have htitleLine : IsLine (scalarLine "title" title) := isLine_append_quoted (by decide) htitle
  refine ⟨?_, fun hcomma => ⟨?_, ?_⟩⟩
  · have hlines : ∀ line ∈ itemForm lang title authors, IsLine line := by
      simp only [itemForm, List.forall_mem_append, List.forall_mem_cons, List.forall_mem_map]
      have hkey : IsLine "authors:" := ⟨by decide, by decide⟩
      exact ⟨⟨hlangLine, htitleLine, hkey, by simp⟩,
        fun a ha => isLine_append_quoted (by decide) (hauthors a ha)⟩
    refine read_of_linesOf hlang htitle ?_ (names_items hauthors n)
    rw [linesOf_written hlines (by simp [itemForm])]
    simp [itemForm]
  · have hlines : ∀ line ∈ lineForm lang title authors, IsLine line := by
      simpa [lineForm] using ⟨hlangLine, htitleLine, isLine_authorsLine hauthors⟩
    refine read_of_linesOf hlang htitle ?_
      (names_authorsLine hauthors hcomma (List.replicate n []))
    rw [linesOf_written hlines (by simp [lineForm])]
    rfl
  · have hlines : ∀ line ∈ [authorsLine authors], IsLine line := by
      simpa using isLine_authorsLine hauthors
    rw [read_eq, linesOf_written hlines (by simp)]
    exact firstNames?_eq_some_iff.2
      ⟨[], _, _, rfl, names_authorsLine hauthors hcomma (List.replicate n []), by simp⟩

/-- Colons, quotes, brackets and dashes in the values, and a carriage return inside one. -/
theorem read_written_marked :
    (∀ value ∈ ["zh: \"Hans\"", "\"", "- [a]", "'b\rc'"], Plain value) ∧
    read (written (itemForm "zh: \"Hans\"" "\"" ["- [a]", "'b\rc'"]) 1) =
      { lang := "zh: \"Hans\"", title := "\"", authors := some ["- [a]", "'b\rc'"] } ∧
    read (written (lineForm "zh: \"Hans\"" "\"" ["- [a]", "'b\rc'"]) 1) =
      { lang := "zh: \"Hans\"", title := "\"", authors := some ["- [a]", "'b\rc'"] } := by
  have hplain : ∀ value ∈ ["zh: \"Hans\"", "\"", "- [a]", "'b\rc'"], Plain value := by
    have hall : ∀ value ∈ ["zh: \"Hans\"", "\"", "- [a]", "'b\rc'"],
        value ≠ "" ∧ Text.trimBlanks value = value ∧ '\n' ∉ value.toList := by decide
    intro value hvalue
    obtain ⟨hne, htrimmed, hline⟩ := hall value hvalue
    exact ⟨hne, htrimmed, hline⟩
  obtain ⟨hitems, hline⟩ := read_written "zh: \"Hans\"" "\"" ["- [a]", "'b\rc'"] hplain 1
  exact ⟨hplain, hitems, (hline (by decide)).1⟩

end Typeset.Frontmatter
