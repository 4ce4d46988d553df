/-
The import of a template.

A file begins by importing its template from a path, and the path stands
between double quotes as it is, unlike the texts of the show rule. A reader of
literals gets the path back exactly where no character of it means anything
inside a literal.
-/
import Typeset.Proofs.Markup.Header

namespace Typeset

namespace Markup

/-- The path that a file imports from, read off its first line, and what follows the literal. -/
def readImport? (cs : List Char) : Option (String × List Char) :=
  (behind? "#import " cs).bind readLiteral

variable {path rest : List Char}

/-- A text without quotes and backslashes needs no protection in a literal. -/
theorem readInside_plain (hquote : '\"' ∉ path) (hbackslash : '\\' ∉ path) (rest : List Char) :
    readInside (path ++ '\"' :: rest) = some (path, rest) := by
  induction path with
  | nil => rfl
  | cons c path ih =>
    simp only [List.mem_cons, not_or] at hquote hbackslash
    rw [List.cons_append, readInside_cons _ (Ne.symm hquote.1) (Ne.symm hbackslash.1),
      ih hquote.2 hbackslash.2]
    rfl

/-- A quote ends the text too early, and a backslash takes two characters for one. -/
theorem not_mem_of_readInside (h : readInside (path ++ '\"' :: rest) = some (path, rest)) :
    '\"' ∉ path ∧ '\\' ∉ path := by
  induction path with
  | nil => simp
  | cons c path ih =>
    by_cases hquote : c = '\"'
    · subst hquote
      simp [readInside] at h
    by_cases hbackslash : c = '\\'
    · -- What is read behind the two characters is one character too long for what is left.
      subst hbackslash
      obtain ⟨next, more, hmore⟩ : ∃ next more, path ++ '\"' :: rest = next :: more :=
        List.exists_cons_of_ne_nil (by simp)
      rw [List.cons_append, hmore, readInside] at h
      obtain ⟨meant, -, h⟩ := Option.bind_eq_some_iff.1 h
      obtain ⟨⟨text, rest'⟩, hread, he⟩ := Option.map_eq_some_iff.1 h
      simp only [Prod.mk.injEq, List.cons.injEq] at he
      obtain ⟨⟨-, rfl⟩, rfl⟩ := he
      have hlength := length_readInside hread
      have hall := congrArg List.length hmore
      simp only [List.length_append, List.length_cons] at hall
      omega
    · rw [List.cons_append, readInside_cons _ hquote hbackslash] at h
      obtain ⟨⟨text, rest'⟩, hread, he⟩ := Option.map_eq_some_iff.1 h
      simp only [Prod.mk.injEq, List.cons.injEq, true_and] at he
      obtain ⟨rfl, rfl⟩ := he
      simpa [Ne.symm hquote, Ne.symm hbackslash] using ih hread

theorem readImport?_importLine (t : Template) (rest : List Char) :
    readImport? ((importLine t).toList ++ rest) =
      (readInside (t.path.toList ++ '\"' :: ((": " ++ t.entry).toList ++ rest))).map
        fun (text, rest) => (String.ofList text, rest) := by
  have hline : (importLine t).toList ++ rest = "#import ".toList ++
      ('\"' :: (t.path.toList ++ '\"' :: ((": " ++ t.entry).toList ++ rest))) := by
    simp [importLine]
  rw [readImport?, hline, behind?_append, Option.bind_some, readLiteral]

theorem readImport?_importLine_iff (t : Template) (rest : List Char) :
    readImport? ((importLine t).toList ++ rest) =
        some (t.path, (": " ++ t.entry).toList ++ rest) ↔
      '\"' ∉ t.path.toList ∧ '\\' ∉ t.path.toList := by
  rw [readImport?_importLine]
  constructor
  · intro h
    obtain ⟨⟨text, rest'⟩, hread, he⟩ := Option.map_eq_some_iff.1 h
    obtain ⟨hpath, rfl⟩ := Prod.mk.inj he
    obtain rfl : text = t.path.toList := by rw [← hpath, String.toList_ofList]
    exact not_mem_of_readInside hread
  · rintro ⟨hquote, hbackslash⟩
    simp only [readInside_plain hquote hbackslash, Option.map_some, String.ofList_toList]

end Markup

namespace Document

/-- **The import names the path of the template exactly if no character of it has a meaning in
literals.** Read as a literal, the path comes back from the import line, with the function of the
template behind it and whatever follows, exactly if it holds neither a double quote nor a backslash.
Every file begins with the import line of its template, so the same is true of every file. -/
theorem import_names_path_iff (t : Template) (rest : List Char) :
    (Markup.readImport? ((Markup.importLine t).toList ++ rest) =
        some (t.path, (": " ++ t.entry).toList ++ rest) ↔
      '\"' ∉ t.path.toList ∧ '\\' ∉ t.path.toList) ∧
    ∀ (d : Document) (o : Options) (r : TemplateRegistry),
      let used := r.resolve o.style
      ∃ rest, (d.renderWith o r).typst.toList =
          (Markup.importLine used).toList ++ '\n' :: '\n' :: rest ∧
        (Markup.readImport? (d.renderWith o r).typst.toList =
            some (used.path, (": " ++ used.entry).toList ++ '\n' :: '\n' :: rest) ↔
          '\"' ∉ used.path.toList ∧ '\\' ∉ used.path.toList) := by
  refine ⟨Markup.readImport?_importLine_iff t rest, fun d o r => ?_⟩
  intro used
  obtain ⟨m, body, htypst⟩ : ∃ m body, (d.renderWith o r).typst = Markup.assemble used m body :=
    ⟨_, _, rfl⟩
  have hfile : (d.renderWith o r).typst.toList = (Markup.importLine used).toList ++ '\n' :: '\n' ::
      ((Markup.showRule used m).toList ++ '\n' :: '\n' :: (body.toList ++ ['\n'])) := by
    simp [htypst, Markup.assemble]
  refine ⟨_, hfile, ?_⟩
  rw [hfile]
  exact Markup.readImport?_importLine_iff used _

/-- **A quote in the path ends the literal.** -/
theorem quoted_path_cut_short :
    let t : Template := ⟨"plain", "a\"b.typ", "article"⟩
    Markup.importLine t = "#import \"a\"b.typ\": article" ∧
      Markup.readImport? (Markup.importLine t).toList = some ("a", "b.typ\": article".toList) ∧
      Markup.readImport? (Markup.importLine t).toList ≠
        some (t.path, (": " ++ t.entry).toList) := by
  decide +kernel

end Document

end Typeset
