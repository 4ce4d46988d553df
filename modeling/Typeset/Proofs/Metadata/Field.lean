/-
Fields of a metadata block, each on its own.

Reading goes over the lines once and keeps all fields together, and the line
that sets the authors takes the items behind it away. Items have no key that a
field is set by, so each field is a fold over all lines, and only those with its
own keys matter: the first value that is not empty for a scalar, the first line
that sets them for the authors.
-/
import Typeset.Proofs.Metadata.Line

namespace Typeset.Frontmatter

variable {keys : List String} {line rest text : List Char} {lines items : List (List Char)}
  {f : Frontmatter} {value : Option String}

/-- What a line has behind one of the keys. -/
def rest? (keys : List String) (line : List Char) : Option (List Char) :=
  match splitKey? line with
  | some (key, rest) => if String.ofList key ∈ keys then some rest else none
  | none => none

/-- A scalar field after a line. -/
def setBy (keys : List String) (value : Option String) (line : List Char) : Option String :=
  match rest? keys line with
  | some rest => setScalar value rest
  | none => value

/-- The authors that a line sets, with some lines behind it. -/
def names? (line : List Char) (after : List (List Char)) : Option (List String) :=
  match splitKey? line with
  | some (key, rest) =>
    if String.ofList key = "author" then
      if rest.isEmpty then none else some (nonEmpty [unquoteChars rest])
    else if String.ofList key = "authors" then
      let value := Text.stripBoth Text.isBlank rest
      if value.isEmpty then some (nonEmpty ((listItems after).1.map unquoteChars))
      else some (inlineList value)
    else none
  | none => none

/-- The authors that the first line to set them sets. -/
def firstNames? : List (List Char) → Option (List String)
  | [] => none
  | line :: lines => (names? line lines).or (firstNames? lines)

theorem rest?_eq_some_iff :
    rest? keys line = some rest ↔ ∃ key ∈ keys, HasKey line key rest := by
  unfold rest?
  constructor
  · intro h
    split at h
    · rename_i key rest' hsplit
      split at h
      · rename_i hkey
        obtain rfl := Option.some.inj h
        exact ⟨_, hkey, splitKey?_eq_some_iff.1 hsplit⟩
      · cases h
    · cases h
  · rintro ⟨key, hkey, h⟩
    simp only [h.splitKey?, String.ofList_toList, hkey, if_true]

/-! ## One line -/

/-- **What a line does.** Each field is set on its own, and items are taken away only where the
authors are set. -/
theorem exists_step (f : Frontmatter) (line : List Char) (lines : List (List Char)) :
    ∃ items, lines = items ++ (step f line lines).2 ∧ (∀ l ∈ items, ∃ text, IsItem l text) ∧
      (items = [] ∨ (f.authors.or (names? line lines)).isSome) ∧
      (step f line lines).1 =
        { lang := setBy ["lang", "language"] f.lang line
          title := setBy ["title"] f.title line
          authors := f.authors.or (names? line lines) } := by
  obtain ⟨lang, title, authors⟩ := f
  cases hsplit : splitKey? line with
  | none => exact ⟨[], by simp [step, setBy, rest?, names?, hsplit]⟩
  | some split =>
    obtain ⟨key, rest⟩ := split
    by_cases hlang : String.ofList key = "lang" ∨ String.ofList key = "language"
    · refine ⟨[], ?_⟩
      rcases hlang with hkey | hkey <;> simp [step, setBy, rest?, names?, hsplit, hkey]
    by_cases htitle : String.ofList key = "title"
    · exact ⟨[], by simp [step, setBy, rest?, names?, hsplit, htitle]⟩
    by_cases hauthor : String.ofList key = "author"
    · refine ⟨[], ?_⟩
      cases authors <;> cases rest <;> simp [step, setBy, rest?, names?, hsplit, hauthor]
    by_cases hauthors : String.ofList key = "authors"
    · cases authors with
      | some names => exact ⟨[], by simp [step, setBy, rest?, names?, hsplit, hauthors]⟩
      | none =>
        by_cases hblank : Text.stripBoth Text.isBlank rest = []
        · obtain ⟨items, hlines, hitems, -⟩ := exists_items lines
          refine ⟨items, ?_, isItem_of_mem hitems, ?_⟩
          · simpa [step, hsplit, hauthors, hblank] using hlines
          · simp [step, setBy, rest?, names?, hsplit, hauthors, hblank]
        · exact ⟨[], by simp [step, setBy, rest?, names?, hsplit, hauthors, hblank]⟩
    · exact ⟨[], by simp_all [step, setBy, rest?, names?]⟩

/-! ## All lines -/

/-- Items set no field whose keys do not begin with a dash. -/
theorem foldl_setBy_items (keys : List String) (hkeys : ∀ key ∈ keys, key.toList.head? ≠ some '-')
    (hitems : ∀ l ∈ items, ∃ text, IsItem l text) (value : Option String) :
    items.foldl (setBy keys) value = value := by
  induction items with
  | nil => rfl
  | cons line items ih =>
    obtain ⟨text, htext⟩ := hitems line List.mem_cons_self
    have hnone : rest? keys line = none :=
      Option.eq_none_iff_forall_ne_some.2 fun rest hrest => by
        obtain ⟨key, hkey, h⟩ := rest?_eq_some_iff.1 hrest
        exact hkeys key hkey (htext.head?_key h)
    rw [List.foldl_cons, setBy, hnone]
    exact ih fun l hl => hitems l (List.mem_cons_of_mem line hl)

/-- **Fields of all lines.** A scalar is set by the lines in their order, items among them or not,
and the authors are those that come first. -/
theorem readLines_eq (f : Frontmatter) (lines : List (List Char)) : readLines f lines =
    { lang := lines.foldl (setBy ["lang", "language"]) f.lang
      title := lines.foldl (setBy ["title"]) f.title
      authors := f.authors.or (firstNames? lines) } := by
  fun_induction readLines f lines with
  | case1 f => simp [firstNames?]
  | case2 f line lines ih =>
    obtain ⟨items, hlines, hitems, htaken, hstep⟩ := exists_step f line lines
    generalize step f line lines = result at ih hlines hstep
    obtain ⟨f', after⟩ := result
    -- The items that the line took away count again: they set no scalar, and the authors are set.
    have hlang := foldl_setBy_items ["lang", "language"] (by decide) hitems
    have htitle := foldl_setBy_items ["title"] (by decide) hitems
    have hauthors : (f.authors.or (names? line lines)).or (firstNames? after) =
        f.authors.or (firstNames? (line :: lines)) := by
      rw [firstNames?, ← Option.or_assoc]
      rcases htaken with rfl | hset
      · rw [hlines, List.nil_append]
      · rw [Option.or_of_isSome hset, Option.or_of_isSome hset]
    simp only at ih hlines hstep
    rw [ih, hstep, hauthors, List.foldl_cons, List.foldl_cons, hlines, List.foldl_append,
      List.foldl_append, hlang, htitle]

theorem read_eq (raw : String) : read raw =
    { lang := (linesOf raw).foldl (setBy ["lang", "language"]) none
      title := (linesOf raw).foldl (setBy ["title"]) none
      authors := firstNames? (linesOf raw) } :=
  readLines_eq {} (linesOf raw)

/-! ## Scalars -/

/-- The value that a line has for one of the keys. -/
def value? (keys : List String) (line : List Char) : Option String :=
  (rest? keys line).map fun rest => unquote (String.ofList rest)

/-- The first value for one of the keys that is not empty. -/
def firstValue? (keys : List String) (lines : List (List Char)) : Option String :=
  lines.findSome? fun line => (value? keys line).filter (· ≠ "")

/-- Some line has one of the keys with something behind its colon. -/
def isWritten (keys : List String) (lines : List (List Char)) : Bool :=
  lines.any fun line => (rest? keys line).any (!·.isEmpty)

theorem foldl_setBy_of_ne {v : String} (h : v ≠ "") (lines : List (List Char)) :
    lines.foldl (setBy keys) (some v) = some v := by
  induction lines with
  | nil => rfl
  | cons line lines ih =>
    have hkept : setBy keys (some v) line = some v := by
      unfold setBy
      split <;> simp [setScalar, isUnset, h]
    rw [List.foldl_cons, hkept, ih]

/-- **A scalar is the first value that is not empty.** Without one it is empty as soon as a line
writes something for it. -/
theorem foldl_setBy (hunset : isUnset value) (lines : List (List Char)) :
    lines.foldl (setBy keys) value =
      (firstValue? keys lines).or (if isWritten keys lines then some "" else value) := by
  induction lines generalizing value with
  | nil => rfl
  | cons line lines ih =>
    rw [List.foldl_cons]
    cases hrest : rest? keys line with
    | none =>
      have hkept : setBy keys value line = value := by rw [setBy, hrest]
      rw [hkept, ih hunset]
      simp [firstValue?, isWritten, value?, hrest]
    | some rest =>
      have hvalue : value? keys line = some (unquote (String.ofList rest)) := by
        rw [value?, hrest, Option.map_some]
      by_cases hempty : rest = []
      · subst hempty
        have hkept : setBy keys value line = value := by simp [setBy, hrest, setScalar]
        have hblank : unquote (String.ofList []) = "" := by decide
        rw [hkept, ih hunset]
        simp [firstValue?, isWritten, hvalue, hrest, hblank]
      · have hset : setBy keys value line = some (unquote (String.ofList rest)) := by
          simp [setBy, hrest, setScalar, hunset, hempty, unquote]
        rw [hset]
        by_cases hblank : unquote (String.ofList rest) = ""
        · rw [hblank, ih (by decide)]
          simp [firstValue?, isWritten, hvalue, hrest, hblank, hempty]
        · rw [foldl_setBy_of_ne hblank]
          simp [firstValue?, hvalue, hblank, Option.filter_some]

end Typeset.Frontmatter
