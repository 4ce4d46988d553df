/-
The template that a document imports, as its compiler finds it.

A document imports the template of its style, by the path of that. A queue made
for the same registry gives its compilers the bundled source of every template
at its path. The first goes by styles, the second by paths, and they agree on a
template exactly where no other style has the last template at its path and the
main document does not stand there either.
-/
import Typeset.Compile.Queue
import Typeset.Proofs.Compile.Replay
import Typeset.Render

namespace Typeset

/-! ## Sources -/

namespace Template

theorem getElem?_fileOfLines {line : String} {i : Nat} (h : i < line.toList.length)
    (lines : List String) : (fileOfLines (line :: lines)).toList[i]? = line.toList[i]? := by
  rw [fileOfLines, List.map_cons, String.join_cons, String.append_assoc, String.toList_append,
    List.getElem?_append_left h]

theorem modernTech_ne_classicEditorial : modernTech ≠ classicEditorial := by
  intro h
  have hfourth := congrArg (·.toList[3]?) h
  simp only [modernTech, classicEditorial] at hfourth
  rw [getElem?_fileOfLines (by decide), getElem?_fileOfLines (by decide)] at hfourth
  revert hfourth
  decide

/-- No source comes with two styles. -/
theorem eq_of_bundledSource? {id id' : String} (hid : (bundledSource? id).isSome)
    (h : bundledSource? id = bundledSource? id') : id = id' := by
  have hne := modernTech_ne_classicEditorial
  unfold bundledSource? at hid h
  grind

theorem getElem?_bundledSource? {id text : String} (h : bundledSource? id = some text) :
    text.toList[0]? = some '/' := by
  unfold bundledSource? at h
  split at h
  · obtain rfl := Option.some.inj h
    rw [modernTech, getElem?_fileOfLines (by decide)]
    decide
  · split at h
    · obtain rfl := Option.some.inj h
      rw [classicEditorial, getElem?_fileOfLines (by decide)]
      decide
    · cases h

end Template

/-- A document opens with the import of the template of its style. -/
theorem Document.exists_typst (d : Document) (o : Options) (r : TemplateRegistry) :
    ∃ rest, (d.renderWith o r).typst = Markup.importLine (r.resolve o.style) ++ "\n\n" ++ rest :=
  ⟨_, by simp only [renderWith, Markup.assemble, String.append_assoc]; rfl⟩

theorem Document.bundledSource?_ne_typst (d : Document) (o : Options) (r : TemplateRegistry)
    (id : String) : Template.bundledSource? id ≠ some (d.renderWith o r).typst := by
  intro h
  have hopens := Template.getElem?_bundledSource? h
  obtain ⟨rest, hrest⟩ := d.exists_typst o r
  rw [hrest] at hopens
  simp [Markup.importLine] at hopens

/-! ## Registries -/

namespace TemplateRegistry

variable {r : TemplateRegistry} {t : Template} {path : String} {style : Option String}

/-- Every template comes with a source. -/
def Bundled (r : TemplateRegistry) : Prop :=
  ∀ t ∈ r.templates, (Template.bundledSource? t.id).isSome

instance (r : TemplateRegistry) : Decidable r.Bundled :=
  inferInstanceAs (Decidable (∀ t ∈ r.templates, _))

/-- The last template at a path. -/
def lastAt? (r : TemplateRegistry) (path : String) : Option Template :=
  r.templates.reverse.find? (·.path == path)

/-- The path of a template is its own: the last template there is of its style, and it is not the
path of the main document. -/
structure Keeps (r : TemplateRegistry) (t : Template) : Prop where
  apart : t.path ≠ "main.typ"
  last : (r.lastAt? t.path).map (·.id) = some t.id

theorem mem_of_lastAt? (h : r.lastAt? path = some t) : t ∈ r.templates ∧ t.path = path := by
  have hpath := List.find?_some h
  exact ⟨List.mem_reverse.1 (List.mem_of_find?_eq_some h), by simpa using hpath⟩

theorem lastAt?_isSome (ht : t ∈ r.templates) : (r.lastAt? t.path).isSome := by
  rw [lastAt?, List.find?_isSome]
  exact ⟨t, List.mem_reverse.2 ht, by simp⟩

/-- Templates of one style may share a path. -/
theorem Keeps.of_forall (ht : t ∈ r.templates) (hmain : t.path ≠ "main.typ")
    (h : ∀ u ∈ r.templates, u.path = t.path → u.id = t.id) : r.Keeps t := by
  obtain ⟨u, hu⟩ := Option.isSome_iff_exists.1 (lastAt?_isSome ht)
  obtain ⟨hmem, hpath⟩ := mem_of_lastAt? hu
  exact ⟨hmain, by rw [hu, Option.map_some, h u hmem hpath]⟩

theorem resolve_mem (h : (r.resolve? style).isSome) : r.resolve style ∈ r.templates := by
  obtain ⟨t, ht⟩ := Option.isSome_iff_exists.1 h
  rw [resolve, ht, Option.getD_some]
  rw [resolve?, Option.or_eq_some_iff] at ht
  rcases ht with ht | ⟨-, ht⟩
  · obtain ⟨id, -, hid⟩ := Option.bind_eq_some_iff.1 ht
    exact List.mem_of_find?_eq_some hid
  · exact List.mem_of_find?_eq_some ht

end TemplateRegistry

end Typeset

namespace Typeset.Compile

variable {reg : TemplateRegistry} {t : Template} {path : String} {c : Compiler} {r : Request}

namespace Worker

/-- **Templates are registered by path**: at each path there is the source of the last one there. -/
theorem get?_registered_templateFiles (h : reg.Bundled) :
    (registered (templateFiles reg)).get? ("/" ++ path) =
      (reg.lastAt? path).bind fun t => Template.bundledSource? t.id := by
  rw [get?_registered, templateFiles, ← List.filterMap_reverse, TemplateRegistry.lastAt?]
  have hts : ∀ t ∈ reg.templates.reverse, (Template.bundledSource? t.id).isSome :=
    fun t ht => h t (List.mem_reverse.1 ht)
  revert hts
  generalize reg.templates.reverse = ts
  intro hts
  induction ts with
  | nil => rfl
  | cons t ts ih =>
    obtain ⟨text, htext⟩ := Option.isSome_iff_exists.1 (hts t (by simp))
    have hpath : ("/" ++ t.path == "/" ++ path) = (t.path == path) := by
      rw [Bool.eq_iff_iff, beq_iff_eq, beq_iff_eq, String.append_right_inj]
    rw [List.filterMap_cons, htext, Option.map_some, List.find?_cons, List.find?_cons, hpath]
    cases t.path == path with
    | true => exact htext.symm
    | false => exact ih fun u hu => hts u (by simp [hu])

end Worker

theorem Compiler.Sees.get?_template (h : c.Sees (Worker.templateFiles reg) r)
    (hbundled : reg.Bundled) (hmain : path ≠ "main.typ") : c.sources.get? ("/" ++ path) =
      (reg.lastAt? path).bind fun t => Template.bundledSource? t.id := by
  have hslash : "/" ++ path ≠ "/main.typ" := fun he =>
    hmain ((String.append_right_inj "/").1 he)
  rw [h.others _ hslash, ← get?_registered, Worker.get?_registered_templateFiles hbundled]

/-- **A path that a template keeps has its source.** -/
theorem Compiler.Sees.get?_of_keeps (h : c.Sees (Worker.templateFiles reg) r)
    (hbundled : reg.Bundled) (ht : reg.Keeps t) :
    c.sources.get? ("/" ++ t.path) = Template.bundledSource? t.id ∧
      (Template.bundledSource? t.id).isSome := by
  obtain ⟨u, hu, hid⟩ := Option.map_eq_some_iff.1 ht.last
  rw [h.get?_template hbundled ht.apart, hu, Option.bind_some, hid]
  exact ⟨rfl, hid ▸ hbundled u (TemplateRegistry.mem_of_lastAt? hu).1⟩

/-- There is a source at a path where the registry has a template there. -/
theorem Compiler.Sees.get?_isSome_iff (h : c.Sees (Worker.templateFiles reg) r)
    (hbundled : reg.Bundled) (hmain : path ≠ "main.typ") :
    (c.sources.get? ("/" ++ path)).isSome ↔ ∃ t ∈ reg.templates, t.path = path := by
  rw [h.get?_template hbundled hmain]
  constructor
  · intro hsome
    obtain ⟨u, hu⟩ : ∃ u, reg.lastAt? path = some u :=
      Option.isSome_iff_exists.1 (Option.isSome_of_isSome_bind hsome)
    exact ⟨u, TemplateRegistry.mem_of_lastAt? hu⟩
  · rintro ⟨t, ht, rfl⟩
    obtain ⟨u, hu⟩ := Option.isSome_iff_exists.1 (TemplateRegistry.lastAt?_isSome ht)
    rw [hu, Option.bind_some]
    exact hbundled u (TemplateRegistry.mem_of_lastAt? hu).1

/-- A template has its source at its path only where the registry keeps the path for it. -/
theorem Compiler.Sees.get?_eq_iff_keeps (h : c.Sees (Worker.templateFiles reg) r)
    (hbundled : reg.Bundled) (hmain : t.path ≠ "main.typ")
    (ht : (Template.bundledSource? t.id).isSome) :
    c.sources.get? ("/" ++ t.path) = Template.bundledSource? t.id ↔ reg.Keeps t := by
  refine ⟨fun he => ⟨hmain, ?_⟩, fun hk => (h.get?_of_keeps hbundled hk).1⟩
  rw [h.get?_template hbundled hmain] at he
  cases hlast : reg.lastAt? t.path with
  | none =>
    rw [hlast, Option.bind_none] at he
    rw [← he] at ht
    cases ht
  | some u =>
    rw [hlast, Option.bind_some] at he
    rw [Option.map_some, Template.eq_of_bundledSource? ht he.symm]

theorem Compiler.Sees.get?_of_mem (h : c.Sees (Worker.templateFiles reg) r)
    (hbundled : reg.Bundled) {d : Document} {o : Options}
    (hr : r.main = (d.renderWith o reg).typst) (ht : t ∈ reg.templates) :
    (c.sources.get? ("/" ++ t.path)).isSome ∧
      (c.sources.get? ("/" ++ t.path) = Template.bundledSource? t.id ↔ reg.Keeps t) := by
  by_cases hmain : t.path = "main.typ"
  · have hget : c.sources.get? ("/" ++ t.path) = some (d.renderWith o reg).typst := by
      rw [hmain, ← hr]
      exact h.main
    refine ⟨Option.isSome_of_eq_some hget, fun he => ?_, fun hk => absurd hmain hk.apart⟩
    exact absurd (he.symm.trans hget) (d.bundledSource?_ne_typst o reg t.id)
  · exact ⟨(h.get?_isSome_iff hbundled hmain).2 ⟨t, ht, rfl⟩,
      h.get?_eq_iff_keeps hbundled hmain (hbundled t ht)⟩

namespace Worker

variable {engine : Engine} {attempts : List (Option String)} {log : List Event} {w : Worker}
  {templates : List TemplateFile}

/-- The compiler that serves a request sees what it is to see. -/
theorem Recorded.sees (h : Recorded templates attempts log w) (hc : w.compilerFor r = .ok c) :
    c.Sees templates r := by
  obtain ⟨events, left, e, hacquire⟩ : ∃ events left e, w.acquire r.needsCjk = (events, left, e) :=
    ⟨_, _, _, rfl⟩
  obtain ⟨hleft, hloaded, hsuits⟩ := h.acquires (acquires_of_acquire hacquire)
  rw [compilerFor_eq hacquire] at hc
  cases e with
  | error e => cases hc
  | ok c' =>
    obtain rfl := Except.ok.inj hc
    exact (hleft.stocked c' hloaded).sees (hsuits c' rfl)

theorem sees_of_registry {rs : List Request}
    (hw : after engine (Queue.ofRegistry reg attempts).worker rs = some w)
    (hc : w.compilerFor r = .ok c) : c.Sees (templateFiles reg) r := by
  have htake : after engine (some { templates := templateFiles reg, attempts })
      (rs.take rs.length) = some w := by
    rw [List.take_length]
    exact hw
  exact (recorded_after (Nat.le_refl _) htake).sees hc

/-- **The compiler of a document finds the template that the document imports**, where the registry
that both go by keeps the path of that template for it. -/
theorem finds_imported_template (engine : Engine) (reg : TemplateRegistry)
    (attempts : List (Option String)) (rs : List Request) (w : Worker) (d : Document) (o : Options)
    (r : Request) (c : Compiler) (hbundled : reg.Bundled)
    (hw : after engine (Queue.ofRegistry reg attempts).worker rs = some w)
    (hr : r.main = (d.renderWith o reg).typst) (hc : w.compilerFor r = .ok c) :
    (outcome engine (some w) r).2 = responseTo r (engine c "/main.typ") ∧
    (∃ rest, r.main = Markup.importLine (reg.resolve o.style) ++ "\n\n" ++ rest) ∧
    (reg.Keeps (reg.resolve o.style) →
      c.sources.get? ("/" ++ (reg.resolve o.style).path) =
        Template.bundledSource? (reg.resolve o.style).id ∧
      (Template.bundledSource? (reg.resolve o.style).id).isSome) ∧
    ((reg.resolve? o.style).isSome →
      (c.sources.get? ("/" ++ (reg.resolve o.style).path)).isSome ∧
      (c.sources.get? ("/" ++ (reg.resolve o.style).path) =
        Template.bundledSource? (reg.resolve o.style).id ↔ reg.Keeps (reg.resolve o.style))) ∧
    (reg.resolve? o.style = none → reg.resolve o.style = Template.fallback ∧
      ((c.sources.get? ("/" ++ Template.fallback.path)).isSome ↔
        ∃ t ∈ reg.templates, t.path = Template.fallback.path) ∧
      (c.sources.get? ("/" ++ Template.fallback.path) =
        Template.bundledSource? Template.fallback.id ↔ reg.Keeps Template.fallback)) := by
  have hsees := sees_of_registry hw hc
  have hapart : Template.fallback.path ≠ "main.typ" := by decide
  refine ⟨outcome_eq_responseTo hc, ?_, fun hk => hsees.get?_of_keeps hbundled hk, fun hs => ?_,
    fun hn => ⟨?_, hsees.get?_isSome_iff hbundled hapart,
      hsees.get?_eq_iff_keeps hbundled hapart (by decide)⟩⟩
  · rw [hr]
    exact d.exists_typst o reg
  · exact hsees.get?_of_mem hbundled hr (TemplateRegistry.resolve_mem hs)
  · rw [TemplateRegistry.resolve, hn, Option.getD_none]

theorem exists_compilerFor {w : Option Worker}
    (h : (w.bind fun w => (w.compilerFor r).toOption).isSome) :
    ∃ w' c, w = some w' ∧ w'.compilerFor r = .ok c := by
  obtain ⟨c, hc⟩ := Option.isSome_iff_exists.1 h
  obtain ⟨w', hw, hc⟩ := Option.bind_eq_some_iff.1 hc
  cases hserves : w'.compilerFor r with
  | error e => simp [hserves, Except.toOption] at hc
  | ok c => exact ⟨w', c, hw, hserves⟩

/-- A registry whose default style is unknown, with a style twice and a path twice. -/
def crowded : TemplateRegistry :=
  ⟨[⟨"modern-tech", "a.typ", "article"⟩, ⟨"classic-editorial", "b.typ", "article"⟩,
    ⟨"modern-tech", "c.typ", "letter"⟩, ⟨"modern-tech", "a.typ", "letter"⟩], "missing"⟩

/-- A document in a style, behind one that needs no more fonts. -/
def titled (style : Option String) : Request where
  id := "1"
  main := ((Document.mk [.heading 1 [.text "T"]]).renderWith { style } crowded).typst

/-- A style of the registry has its source. Without one, the document imports the built-in template
from a path where there is nothing. -/
theorem finds_imported_template_crowded : ∃ w c c',
    crowded.Bundled ∧ crowded.Keeps (crowded.resolve (some "modern-tech")) ∧
    after scripted (Queue.ofRegistry crowded []).worker [{ id := "0", main := "x" }] = some w ∧
    w.compilerFor (titled (some "modern-tech")) = .ok c ∧ w.compilerFor (titled none) = .ok c' ∧
    c.sources.get? "/a.typ" = Template.bundledSource? "modern-tech" ∧
    crowded.resolve? none = none ∧ c'.sources.get? "/styles/modern-tech.typ" = none := by
  have hbundled : crowded.Bundled := by decide
  have hkeeps : crowded.Keeps (crowded.resolve (some "modern-tech")) :=
    .of_forall (by decide) (by decide) (by decide)
  have hunknown : crowded.resolve? none = none := by decide
  obtain ⟨w, c, hw, hserves⟩ := exists_compilerFor (r := titled (some "modern-tech"))
    (w := after scripted (Queue.ofRegistry crowded []).worker [{ id := "0", main := "x" }])
    (by decide +kernel)
  obtain ⟨w', c', hw', hserves'⟩ := exists_compilerFor (r := titled none)
    (w := after scripted (Queue.ofRegistry crowded []).worker [{ id := "0", main := "x" }])
    (by decide +kernel)
  obtain rfl := Option.some.inj (hw'.symm.trans hw)
  have hfinds := finds_imported_template scripted crowded [] _ w' _ { style := some "modern-tech" }
    (titled (some "modern-tech")) c hbundled hw rfl hserves
  have hmisses := finds_imported_template scripted crowded [] _ w' _ {} (titled none) c' hbundled hw
    rfl hserves'
  have hsource := (hfinds.2.2.1 hkeeps).1
  have hpaths : ¬ ∃ t ∈ crowded.templates, t.path = Template.fallback.path := by decide
  have hnothing := mt (hmisses.2.2.2.2 hunknown).2.1.1 hpaths
  exact ⟨w', c, c', hbundled, hkeeps, hw, hserves, hserves', hsource, hunknown,
    Option.not_isSome_iff_eq_none.1 hnothing⟩

/-- A registry with templates of two styles at one path. -/
def doubled : TemplateRegistry :=
  ⟨[⟨"modern-tech", "a.typ", "article"⟩, ⟨"classic-editorial", "a.typ", "article"⟩], "modern-tech"⟩

/-- A document in the style of the first. -/
def plainly : Request where
  id := ""
  main := ((Document.mk [.paragraph [.text "x"]]).renderWith {} doubled).typst

/-- Of two styles at one path, the second takes the path from the first. -/
theorem second_style_takes_path : ∃ w c, doubled.Bundled ∧
    (Queue.ofRegistry doubled []).worker = some w ∧ w.compilerFor plainly = .ok c ∧
    (doubled.resolve? none).isSome ∧
    c.sources.get? ("/" ++ (doubled.resolve none).path) ≠
      Template.bundledSource? (doubled.resolve none).id := by
  have hbundled : doubled.Bundled := by decide
  obtain ⟨w, c, hw, hserves⟩ := exists_compilerFor (r := plainly)
    (w := (Queue.ofRegistry doubled []).worker) (by decide +kernel)
  have hafter : after scripted (Queue.ofRegistry doubled []).worker [] = some w := hw
  have hsees := sees_of_registry hafter hserves
  have hmem : doubled.resolve none ∈ doubled.templates := by decide
  refine ⟨w, c, hbundled, hw, hserves, by decide, fun he => ?_⟩
  have hkeeps := (hsees.get?_of_mem hbundled (o := {}) rfl hmem).2.1 he
  exact absurd hkeeps.last (by decide)

end Worker

end Typeset.Compile
