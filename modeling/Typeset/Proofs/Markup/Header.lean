/-
Reading the head of a file.

Who knows the template of a file reads the metadata and the body out of it:
the arguments of the show rule are string literals, which end where they
should whatever they hold, and the rest of the head is fixed. So no title and
no author can change another field, or the rule.
-/
import Mathlib.Data.List.Basic
import Typeset.Proofs.Markup.Literal
import Typeset.Proofs.Text.Lines
import Typeset.Render

namespace Typeset

/-- The language of a tag. -/
def Lang.ofTag? (tag : String) : Option Lang :=
  if tag = "zh" then some .zh else if tag = "en" then some .en else none

theorem Lang.ofTag?_tag (l : Lang) : ofTag? l.tag = some l := by
  cases l <;> rfl

namespace Markup

/-! ## The reader -/

/-- What stands behind a fixed text, if that stands first. -/
def behind? (fixed : String) (cs : List Char) : Option (List Char) := fixed.toList.isPrefixOf? cs

/-- The further values of an array, each behind a comma, up to the parenthesis that closes it. -/
def readMore : List Char → Option (List String × List Char)
  | ')' :: cs => some ([], cs)
  | ',' :: ' ' :: cs =>
    match _h : readLiteral cs with
    | some (value, rest) => (readMore rest).map fun (values, rest) => (value :: values, rest)
    | none => none
  | _ => none
termination_by cs => cs.length
decreasing_by
  have := length_readLiteral _h
  simp
  omega

/-- The values of an array from behind the parenthesis that opens it. A comma follows a value that
is alone, and there is at least one. -/
def readArray (cs : List Char) : Option (List String × List Char) :=
  (readLiteral cs).bind fun (value, rest) =>
    match rest with
    | ',' :: ')' :: rest => some ([value], rest)
    | ',' :: _ => (readMore rest).map fun (values, rest) => (value :: values, rest)
    | _ => none

/-- An argument that other ones follow, or what stands for it where it is absent. -/
def readOptional {α : Type} (name : String) (read : List Char → Option (α × List Char)) (absent : α)
    (cs : List Char) : Option (α × List Char) :=
  match behind? name cs with
  | some cs => (read cs).bind fun (value, rest) => (behind? ", " rest).map fun rest => (value, rest)
  | none => some (absent, cs)

/-- What a file holds. -/
structure Contents where
  title : String
  authors : List String
  lang : Lang
  body : String

/-- What a file with a template holds. -/
def read? (t : Template) (file : String) : Option Contents := do
  let cs ← behind? (importLine t ++ "\n\n#show: " ++ t.entry ++ ".with(") file.toList
  let (title, cs) ← readOptional "title: " readLiteral "" cs
  let (authors, cs) ← readOptional "authors: (" readArray [] cs
  let cs ← behind? "lang: " cs
  let (tag, cs) ← readLiteral cs
  let lang ← Lang.ofTag? tag
  let cs ← behind? ")\n\n" cs
  if cs.getLast? = some '\n' then some ⟨title, authors, lang, String.ofList cs.dropLast⟩ else none

theorem behind?_append (fixed : String) (cs : List Char) :
    behind? fixed (fixed.toList ++ cs) = some cs := by
  simp [behind?, List.isPrefixOf?_eq_some_iff_append_eq]

/-! ## What is written is read -/

theorem readMore_cons {cs rest : List Char} {value : String}
    (h : readLiteral cs = some (value, rest)) :
    readMore (',' :: ' ' :: cs) =
      (readMore rest).map fun (values, rest) => (value :: values, rest) := by
  rw [readMore]
  split
  · rename_i hs
    obtain ⟨rfl, rfl⟩ : value = _ ∧ rest = _ := by simpa [h] using hs
    rfl
  · simp_all

theorem readMore_quotes (values : List String) (cs : List Char) :
    readMore ((values.flatMap fun value => ", ".toList ++ (quote value).toList) ++ ')' :: cs) =
      some (values, cs) := by
  induction values with
  | nil => simp [readMore]
  | cons value values ih =>
    have h := readMore_cons (readLiteral_quote value
      ((values.flatMap fun value => ", ".toList ++ (quote value).toList) ++ ')' :: cs))
    rw [ih] at h
    simpa using h

/-- An array that is not empty is read back. -/
theorem readArray_array {values : List String} (h : values ≠ []) :
    ∃ inside, array (values.map quote) = "(" ++ inside ∧
      ∀ cs, readArray (inside.toList ++ cs) = some (values, cs) := by
  match values with
  | [value] =>
    refine ⟨quote value ++ ",)", by simp [array, String.append_assoc], fun cs => ?_⟩
    simp [readArray, readLiteral_quote]
  | value :: next :: values =>
    refine ⟨Text.joinWith ", " ((value :: next :: values).map quote) ++ ")",
      by simp [array, String.append_assoc], fun cs => ?_⟩
    have hmore := readMore_quotes (next :: values) cs
    have hone := readLiteral_quote value
      (((next :: values).flatMap fun value => ", ".toList ++ (quote value).toList) ++ ')' :: cs)
    have hs : (Text.joinWith ", " ((value :: next :: values).map quote) ++ ")").toList ++ cs =
        (quote value).toList ++
          (((next :: values).flatMap fun value => ", ".toList ++ (quote value).toList) ++
            ')' :: cs) := by
      rw [String.toList_append, List.map_cons, Text.toList_joinWith_cons, List.flatMap_map]
      simp
    rw [hs, readArray, hone]
    simpa using hmore

/-- An argument that is left out where it says nothing, with the comma behind it. -/
def optional (absent : Bool) (argument : String) : String :=
  if absent then "" else argument ++ ", "

theorem joinWith_arguments (m : Metadata) :
    Text.joinWith ", " (arguments m) =
      optional m.title.isEmpty ("title: " ++ quote m.title) ++
        (optional m.authors.isEmpty ("authors: " ++ array (m.authors.map quote)) ++
          ("lang: " ++ quote m.lang.tag)) := by
  unfold arguments optional
  split <;> split <;> simp [Text.joinWith, String.append_assoc]

theorem readOptional_optional {α : Type} {name : String} {read : List Char → Option (α × List Char)}
    {absent value : α} {argument : String} {leave : Bool} {rest : List Char}
    (ha : leave = true → value = absent) (hn : behind? name rest = none)
    (hp : leave = false → ∃ inside, argument = name ++ inside ∧
      ∀ cs, read (inside.toList ++ cs) = some (value, cs)) :
    readOptional name read absent ((optional leave argument).toList ++ rest) =
      some (value, rest) := by
  cases leave with
  | true => simp [optional, readOptional, hn, ha]
  | false =>
    obtain ⟨inside, rfl, hread⟩ := hp rfl
    have h : (optional false (name ++ inside)).toList ++ rest =
        name.toList ++ (inside.toList ++ (", ".toList ++ rest)) := by
      simp [optional]
    simp only [h, readOptional, behind?_append, hread, Option.bind_some, Option.map_some]

theorem readOptional_title (title : String) {rest : List Char}
    (h : behind? "title: " rest = none) :
    readOptional "title: " readLiteral ""
      ((optional title.isEmpty ("title: " ++ quote title)).toList ++ rest) = some (title, rest) :=
  readOptional_optional (fun he => by simpa using he) h fun _ =>
    ⟨quote title, rfl, readLiteral_quote title⟩

theorem readOptional_authors (authors : List String) {rest : List Char}
    (h : behind? "authors: (" rest = none) :
    readOptional "authors: (" readArray []
      ((optional authors.isEmpty ("authors: " ++ array (authors.map quote))).toList ++ rest) =
      some (authors, rest) := by
  refine readOptional_optional (fun he => by simpa using he) h fun hne => ?_
  obtain ⟨inside, harray, hread⟩ := readArray_array (by simpa using hne)
  exact ⟨inside, by rw [harray, ← String.append_assoc]; rfl, hread⟩

/-- **What a file holds is read back**, whatever its title, its authors and its body are. -/
theorem read?_assemble (t : Template) (m : Metadata) (body : String) :
    read? t (assemble t m body) = some ⟨m.title, m.authors, m.lang, body⟩ := by
  let lang : List Char :=
    "lang: ".toList ++ ((quote m.lang.tag).toList ++ (")\n\n".toList ++ (body.toList ++ ['\n'])))
  let authors : List Char :=
    (optional m.authors.isEmpty ("authors: " ++ array (m.authors.map quote))).toList ++ lang
  have hfile : (assemble t m body).toList =
      (importLine t ++ "\n\n#show: " ++ t.entry ++ ".with(").toList ++
        ((optional m.title.isEmpty ("title: " ++ quote m.title)).toList ++ authors) := by
    simp [assemble, showRule, joinWith_arguments, lang, authors]
  have htitle : behind? "title: " authors = none := by
    cases h : m.authors.isEmpty <;> simp [behind?, authors, lang, optional, h, List.isPrefixOf?]
  have hauthors : readOptional "authors: (" readArray [] authors = some (m.authors, lang) :=
    readOptional_authors _ (by simp [behind?, lang, List.isPrefixOf?])
  have hlang : behind? "lang: " lang = some ((quote m.lang.tag).toList ++
      (")\n\n".toList ++ (body.toList ++ ['\n']))) := behind?_append _ _
  simp only [read?, hfile, behind?_append, readOptional_title _ htitle, hauthors, hlang,
    readLiteral_quote, Lang.ofTag?_tag, Option.bind_eq_bind, Option.bind_some]
  simp

/-! ## The arguments stay on their line -/

theorem not_mem_joinWith {c : Char} {separator : String} (hc : c ∉ separator.toList)
    {parts : List String} (h : ∀ s ∈ parts, c ∉ s.toList) :
    c ∉ (Text.joinWith separator parts).toList := by
  intro hm
  obtain ⟨s, hs, hm⟩ | ⟨hm, -⟩ := Text.mem_joinWith.1 hm
  · exact h s hs hm
  · exact hc hm

theorem not_mem_array {values : List String} : '\n' ∉ (array (values.map quote)).toList := by
  unfold array
  split
  · rename_i item h
    obtain ⟨value, rfl, rfl⟩ := List.map_eq_singleton_iff.1 h
    simp [not_mem_quote]
  · have : '\n' ∉ (Text.joinWith ", " (values.map quote)).toList :=
      not_mem_joinWith (by decide) (by simp [not_mem_quote])
    simp [this]

theorem not_mem_arguments (m : Metadata) :
    '\n' ∉ (Text.joinWith ", " (arguments m)).toList := by
  refine not_mem_joinWith (by decide) fun s hs => ?_
  simp only [arguments, List.mem_append, List.mem_ite_nil_left, List.mem_singleton] at hs
  obtain (⟨-, rfl⟩ | ⟨-, rfl⟩) | rfl := hs
  · simp [not_mem_quote]
  · simp [not_mem_array]
  · simp [not_mem_quote]

end Markup

/-- **The head of a file can be read back.** Who knows the template of a file gets its title, its
authors, its language and its body out of it, whatever texts those are: the arguments stand on one
line, and the literal of a value is read as that value and ends where it should, whatever
follows. -/
theorem Document.header_decodable (d : Document) (o : Options) (r : TemplateRegistry) :
    let t := r.resolve o.style
    let out := d.renderWith o r
    let m := Metadata.resolve d o (.ofBlocks d.children)
    let body := (d.renderBody (.ofBlocks d.children) m).value
    let arguments := Text.joinWith ", " (Markup.arguments m)
    Markup.read? t out.typst = some ⟨out.title, out.authors, out.lang, body⟩ ∧
    out.typst = Markup.importLine t ++ "\n\n#show: " ++ t.entry ++ ".with(" ++ arguments ++
      ")\n\n" ++ body ++ "\n" ∧
    '\n' ∉ arguments.toList ∧
    ∀ value rest,
      Markup.readLiteral ((Markup.quote value).toList ++ rest) = some (value, rest) := by
  intro t out m body arguments
  have hout : out.typst = Markup.assemble t m body := rfl
  refine ⟨?_, ?_, Markup.not_mem_arguments m, Markup.readLiteral_quote⟩
  · rw [hout, Markup.read?_assemble]
    rfl
  · rw [hout, ← String.toList_inj]
    simp [Markup.assemble, Markup.showRule, arguments]

end Typeset
