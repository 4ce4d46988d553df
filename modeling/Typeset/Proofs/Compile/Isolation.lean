/-
What a request sees of those before it.

A compiler is kept from one request to the next, and nothing takes a file back
out. So the sources are those of the request alone, since the main document
always stands at one path, but assets stay: a request also finds what earlier
ones left at paths that it does not set itself. It is isolated from them
exactly where it sets every path that they set.
-/
import Mathlib.Data.List.Basic
import Mathlib.Data.List.Induction
import Mathlib.Data.List.TakeWhile
import Typeset.Compile.Scripted
import Typeset.Proofs.Compile.Trace

namespace Typeset.Compile

/-- Whether a document needs fonts for Chinese, Japanese and Korean text. -/
def Request.needsCjk (r : Request) : Bool := Text.containsCjk r.main

/-- Of requests in turn, those that the compiler of the last one served. -/
def sharing (rs : List Request) : List Request :=
  if rs.any Request.needsCjk then rs.dropWhile (!·.needsCjk) else rs

/-- The assets that requests leave behind. -/
def leftAssets (rs : List Request) : Assets := rs.foldl (fun m r => m.overlay r.assets) ∅

/-- The sources that a compiler holds for a request, with templates beside it. -/
def sourcesFor (templates : List TemplateFile) (r : Request) : PathMap String :=
  let registered : PathMap String := templates.foldl (fun m t => m.insert t.path t.text) ∅
  registered.insert Compiler.mainPath r.main

/-- The files that a request comes to after others, if every compiler that was needed could be
created. -/
def filesAfter (templates : List TemplateFile) (rs : List Request) (r : Request) : Files where
  cjk := (rs ++ [r]).any Request.needsCjk
  sources := sourcesFor templates r
  assets := leftAssets (sharing (rs ++ [r]))

/-! ## Requests on one compiler -/

/-- A request whose needs were met before shares the compiler that met them. -/
theorem sharing_keep {rs : List Request} {r : Request}
    (h : rs.any Request.needsCjk || !r.needsCjk) : sharing (rs ++ [r]) = sharing rs ++ [r] := by
  unfold sharing
  by_cases hrs : rs.any Request.needsCjk
  · obtain ⟨q, hq, hn⟩ := List.any_eq_true.1 hrs
    have hdrop : (rs ++ [r]).dropWhile (!·.needsCjk) = rs.dropWhile (!·.needsCjk) ++ [r] := by
      rw [List.dropWhile_append, if_neg]
      intro he
      have := List.dropWhile_eq_nil_iff.1 (List.isEmpty_iff.1 he) q hq
      simp [hn] at this
    simp [hrs, hdrop]
  · have hr : r.needsCjk = false := by simpa [hrs] using h
    simp [hrs, hr]

theorem sharing_new {rs : List Request} {r : Request} (hrs : ¬ rs.any Request.needsCjk)
    (hr : r.needsCjk) : sharing (rs ++ [r]) = [r] := by
  have hall : ∀ q ∈ rs, q.needsCjk = false := by simpa using hrs
  have hnil : rs.dropWhile (!·.needsCjk) = [] :=
    List.dropWhile_eq_nil_iff.2 fun q hq => by simp [hall q hq]
  unfold sharing
  rw [List.dropWhile_append, hnil]
  simp [hr]

theorem sharing_singleton (r : Request) : sharing [r] = [r] := by
  cases hr : r.needsCjk with
  | true => exact @sharing_new [] r (by simp) hr
  | false => exact @sharing_keep [] r (by simp [hr])

theorem leftAssets_append {rs : List Request} {r : Request} :
    leftAssets (rs ++ [r]) = (leftAssets rs).overlay r.assets :=
  List.foldl_append

/-- At every path there is what the last request left that set it. -/
theorem get?_leftAssets {rs : List Request} {path : String} :
    (leftAssets rs).get? path = rs.reverse.findSome? (·.assets.get? path) := by
  induction rs using List.reverseRecOn with
  | nil => rfl
  | append_singleton rs r ih =>
    rw [leftAssets_append, PathMap.get?_overlay, ih, List.reverse_concat, List.findSome?_cons]
    cases r.assets.get? path <;> rfl

theorem exists_sharing_eq (rs : List Request) (r : Request) :
    ∃ qs, sharing (rs ++ [r]) = qs ++ [r] := by
  by_cases hkeep : rs.any Request.needsCjk || !r.needsCjk
  · exact ⟨_, sharing_keep hkeep⟩
  · obtain ⟨hrs, hr⟩ : ¬ rs.any Request.needsCjk ∧ r.needsCjk := by simpa using hkeep
    exact ⟨[], sharing_new hrs hr⟩

/-- Only the assets of the last request are left where it sets every path that others set. -/
theorem leftAssets_sharing_eq_iff {rs : List Request} {r : Request} :
    leftAssets (sharing (rs ++ [r])) = r.assets ↔ ∀ q ∈ sharing (rs ++ [r]), ∀ path,
      (q.assets.get? path).isSome → (r.assets.get? path).isSome := by
  obtain ⟨qs, hqs⟩ := exists_sharing_eq rs r
  rw [hqs, leftAssets_append, PathMap.overlay_eq_right_iff]
  constructor
  · intro h q hq path hpath
    rcases List.mem_append.1 hq with hq | hq
    · refine h path ?_
      rw [get?_leftAssets, List.findSome?_isSome_iff]
      exact ⟨q, List.mem_reverse.2 hq, hpath⟩
    · rwa [← List.mem_singleton.1 hq]
  · intro h path hpath
    rw [get?_leftAssets, List.findSome?_isSome_iff] at hpath
    obtain ⟨q, hq, hpath⟩ := hpath
    exact h q (List.mem_append_left _ (List.mem_reverse.1 hq)) path hpath

theorem filesAfter_nil (templates : List TemplateFile) (r : Request) :
    filesAfter templates [] r =
      { cjk := r.needsCjk, sources := sourcesFor templates r, assets := r.assets } := by
  rw [filesAfter, List.nil_append, sharing_singleton]
  simp [leftAssets]

theorem toFiles_addRequest_new {templates : List TemplateFile} {rs : List Request} {r : Request}
    (hcjk : (rs ++ [r]).any Request.needsCjk = r.needsCjk) (hshare : sharing (rs ++ [r]) = [r]) :
    ((({ cjk := r.needsCjk } : Compiler).addTemplates templates).addRequest r).toFiles =
      filesAfter templates rs r := by
  rw [Compiler.toFiles_addRequest, Compiler.toFiles_addTemplates, filesAfter, hcjk, hshare]
  rfl

theorem toFiles_addRequest_kept {templates : List TemplateFile} {rs : List Request}
    {q r : Request} {c : Compiler} (hc : c.toFiles = filesAfter templates rs q)
    (h : c.cjk || !r.needsCjk) :
    (c.addRequest r).toFiles = filesAfter templates (rs ++ [q]) r := by
  rw [hc] at h
  have hcjk : (rs ++ [q] ++ [r]).any Request.needsCjk = (rs ++ [q]).any Request.needsCjk := by
    rw [List.any_append]
    cases hr : r.needsCjk <;> simp_all [filesAfter]
  rw [Compiler.toFiles_addRequest, hc]
  simp only [filesAfter, sourcesFor]
  rw [PathMap.insert_insert, sharing_keep h, leftAssets_append, hcjk]

namespace Worker

variable {engine : Engine} {w : Worker} {templates : List TemplateFile}
  {attempts : List (Option String)} {rs : List Request} {r : Request}

/-- The compiler that serves a request, with the files of that registered. -/
def compilerFor (w : Worker) (r : Request) : Except Error Compiler :=
  (w.acquire r.needsCjk).2.2.map (·.addRequest r)

/-- The response to a request that the compiler was run for, none where it panicked. -/
def responseTo (r : Request) : Verdict → Option Response
  | .finished artifact diagnostics => some ⟨r.id, .ofResult (resultOf artifact diagnostics)⟩
  | .panicked => none

theorem compilerFor_eq {events : List Event} {left : Worker} {e : Except Error Compiler}
    (h : w.acquire r.needsCjk = (events, left, e)) : w.compilerFor r = e.map (·.addRequest r) := by
  rw [compilerFor, h]

/-- The response tells what the engine made of the compiler, and nothing else. -/
theorem outcome_eq_responseTo {c : Compiler} (h : w.compilerFor r = .ok c) :
    (outcome engine (some w) r).2 = responseTo r (engine c Compiler.mainPath) := by
  obtain ⟨events, left, e, hacquire⟩ : ∃ events left e, w.acquire r.needsCjk = (events, left, e) :=
    ⟨_, _, _, rfl⟩
  rw [compilerFor_eq hacquire] at h
  cases e with
  | error e => cases h
  | ok c' =>
    obtain rfl := Except.ok.inj h
    rw [outcome, process_of_ok hacquire]
    cases engine (c'.addRequest r) Compiler.mainPath <;> rfl

/-! ## What a worker holds -/

/-- A worker after requests, where every compiler that was needed could be created. -/
structure Provided (templates : List TemplateFile) (rs : List Request) (w : Worker) : Prop where
  templates_eq : w.templates = templates
  attempts_none : ∀ a ∈ w.attempts, a = none
  fresh : rs = [] → w.loaded = none
  loaded : ∀ qs q, rs = qs ++ [q] →
    w.loaded.map Compiler.toFiles = some (filesAfter templates qs q)

theorem head?_join_of_attempts_none (h : ∀ a ∈ w.attempts, a = none) :
    w.attempts.head?.join = none := by
  cases hw : w.attempts with
  | nil => rfl
  | cons a as => simp [h a (by simp [hw])]

/-- **The compiler of the next request**, and the worker that it leaves behind. -/
theorem Provided.acquire (h : Provided templates rs w) (r : Request) :
    ∃ events left c, w.acquire r.needsCjk = (events, left, .ok c) ∧
      (c.addRequest r).toFiles = filesAfter templates rs r ∧
      left.templates = templates ∧ ∀ a ∈ left.attempts, a = none := by
  obtain ⟨events, left, e, hacquire⟩ : ∃ events left e, w.acquire r.needsCjk = (events, left, e) :=
    ⟨_, _, _, rfl⟩
  cases acquires_of_acquire hacquire with
  | failed _ fails => cases (head?_join_of_attempts_none h.attempts_none).symm.trans fails
  | kept loaded suits =>
    obtain rfl | ⟨qs, q, rfl⟩ := List.eq_nil_or_concat' rs
    · cases (h.fresh rfl).symm.trans loaded
    · have hc := h.loaded qs q rfl
      rw [loaded, Option.map_some, Option.some.injEq] at hc
      exact ⟨_, _, _, hacquire, toFiles_addRequest_kept hc suits, h.templates_eq, h.attempts_none⟩
  | created needed =>
    refine ⟨_, _, _, hacquire, ?_, h.templates_eq,
      fun a ha => h.attempts_none a (List.mem_of_mem_tail ha)⟩
    rw [h.templates_eq]
    obtain rfl | ⟨qs, q, rfl⟩ := List.eq_nil_or_concat' rs
    · exact toFiles_addRequest_new (by simp) (sharing_singleton r)
    · obtain ⟨d, hd, hfiles⟩ := Option.map_eq_some_iff.1 (h.loaded qs q rfl)
      have hneeded := needed d hd
      rw [hfiles] at hneeded
      obtain ⟨hqs, hr⟩ : ¬ (qs ++ [q]).any Request.needsCjk ∧ r.needsCjk := by
        simpa [filesAfter] using hneeded
      refine toFiles_addRequest_new ?_ (sharing_new hqs hr)
      rw [List.any_append]
      simp [hr]

theorem Provided.compilerFor (h : Provided templates rs w) (r : Request) :
    ∃ c, w.compilerFor r = .ok c ∧ c.toFiles = filesAfter templates rs r := by
  obtain ⟨_, _, c, hacquire, hc, -⟩ := h.acquire r
  exact ⟨c.addRequest r, compilerFor_eq hacquire, hc⟩

theorem Provided.nil (templates : List TemplateFile) (hattempts : ∀ a ∈ attempts, a = none) :
    Provided templates [] { templates, attempts } :=
  ⟨rfl, hattempts, fun _ => rfl, by simp⟩

/-- What one request preserves. -/
theorem Provided.next (h : Provided templates rs w) {left : Worker}
    (hleft : Worker.next engine (some w) r = some left) : Provided templates (rs ++ [r]) left := by
  obtain ⟨events, w', c, hacquire, hc, htemplates, hattempts⟩ := h.acquire r
  rw [Worker.next, Option.bind_some, process_of_ok hacquire] at hleft
  cases hv : engine (c.addRequest r) Compiler.mainPath with
  | panicked => simp [hv] at hleft
  | finished artifact diagnostics =>
    simp only [hv, Option.map_some, Option.some.injEq] at hleft
    subst hleft
    refine ⟨htemplates, hattempts, by simp, fun qs q hq => ?_⟩
    obtain ⟨rfl, hr⟩ := List.append_inj' hq rfl
    obtain rfl := List.singleton_inj.1 hr
    exact congrArg some hc

/-- What a whole run of requests leaves. -/
theorem provided_after (hattempts : ∀ a ∈ attempts, a = none)
    (hw : after engine (some { templates, attempts }) rs = some w) : Provided templates rs w := by
  induction rs using List.reverseRecOn generalizing w with
  | nil =>
    obtain rfl := Option.some.inj hw
    exact .nil templates hattempts
  | append_singleton rs r ih =>
    rw [after_append] at hw
    cases hrs : after engine (some { templates, attempts }) rs with
    | none => simp [hrs] at hw
    | some w' => exact (ih hrs).next (hrs ▸ hw)

/-! ## Isolation -/

/-- **A request is isolated from those before it, up to the assets that they left.** If every
attempt to create a compiler succeeds, then after any requests that the worker survives: the
sources are the templates and the request's own text, as on a fresh worker; the assets are, at
each path, those of the last request on the same compiler that set it, and so the request's own
exactly if it sets all their paths; and the response is that of a fresh worker to the request with
these assets, provided both compilers have the same fonts and what they make of fonts and files
depends on nothing else. -/
theorem isolated_up_to_assets (engine : Engine) (templates : List TemplateFile)
    (attempts : List (Option String)) (rs : List Request) (r : Request)
    (hattempts : ∀ a ∈ attempts, a = none)
    (hrs : Survives engine (some { templates, attempts }) rs) :
    ∃ w c c₀, after engine (some { templates, attempts }) rs = some w ∧
      w.compilerFor r = .ok c ∧ ({ templates, attempts } : Worker).compilerFor r = .ok c₀ ∧
      (c.cjk = (rs ++ [r]).any Request.needsCjk ∧ c₀.cjk = r.needsCjk) ∧
      (c.sources = sourcesFor templates r ∧ c₀.sources = sourcesFor templates r) ∧
      (c₀.assets = r.assets ∧ ∀ path, c.assets.get? path =
        (sharing (rs ++ [r])).reverse.findSome? (·.assets.get? path)) ∧
      (c.assets = r.assets ↔ ∀ q ∈ sharing (rs ++ [r]), ∀ path,
        (q.assets.get? path).isSome → (r.assets.get? path).isSome) ∧
      (engine.ReadsFiles → c.cjk = c₀.cjk →
        (outcome engine (some w) r).2 =
          (outcome engine (some { templates, attempts }) { r with assets := c.assets }).2 ∧
        (c.assets = r.assets →
          (outcome engine (some w) r).2 =
            (outcome engine (some { templates, attempts }) r).2)) := by
  obtain ⟨w, hw⟩ := Option.isSome_iff_exists.1 hrs
  have hfresh := Provided.nil templates hattempts
  obtain ⟨c, hc, hfiles⟩ := (provided_after hattempts hw).compilerFor r
  obtain ⟨c₀, hc₀, hfiles₀⟩ := hfresh.compilerFor r
  rw [filesAfter_nil] at hfiles₀
  refine ⟨w, c, c₀, hw, hc, hc₀, ?_⟩
  rw [hfiles, hfiles₀]
  refine ⟨⟨rfl, rfl⟩, ⟨rfl, rfl⟩, ⟨rfl, fun path => get?_leftAssets⟩, leftAssets_sharing_eq_iff,
    fun hengine hcjk => ?_⟩
  have hsame : (outcome engine (some w) r).2 = (outcome engine (some { templates, attempts })
      { r with assets := (filesAfter templates rs r).assets }).2 := by
    obtain ⟨d, hd, hdfiles⟩ :=
      hfresh.compilerFor { r with assets := (filesAfter templates rs r).assets }
    have halike : c.toFiles = d.toFiles := by
      rw [hfiles, hdfiles, filesAfter_nil]
      simp only [Request.needsCjk] at hcjk ⊢
      rw [← hcjk]
      rfl
    rw [outcome_eq_responseTo hc, outcome_eq_responseTo hd, hengine c d _ halike]
    rfl
  refine ⟨hsame, fun hassets => ?_⟩
  rw [hsame, hassets]

/-- A document with a picture. -/
def illustrated : Request := { id := "", main := "a", assets := PathMap.ofList [("x.png", [1])] }

/-- A document without one. -/
def unillustrated : Request := { id := "", main := "b" }

/-- The second document finds the picture of the first, and ends as if that were its own. -/
theorem isolated_up_to_assets_illustrated : ∃ w c c₀,
    after scripted (some { templates := [], attempts := [none] }) [illustrated] = some w ∧
    w.compilerFor unillustrated = .ok c ∧
    ({ templates := [], attempts := [none] } : Worker).compilerFor unillustrated = .ok c₀ ∧
    c.assets.get? "x.png" = some [1] ∧ c₀.assets.get? "x.png" = none ∧ c.sources = c₀.sources ∧
    (outcome scripted (some w) unillustrated).2 =
      (outcome scripted (some { templates := [], attempts := [none] })
        { unillustrated with assets := c.assets }).2 := by
  obtain ⟨w, c, c₀, hw, hc, hc₀, ⟨hcjk, hcjk₀⟩, ⟨hs, hs₀⟩, ⟨ha₀, ha⟩, -, hsame⟩ :=
    isolated_up_to_assets scripted [] [none] [illustrated] unillustrated (by simp)
      (by decide +kernel)
  refine ⟨w, c, c₀, hw, hc, hc₀, ?_, ?_, hs.trans hs₀.symm, (hsame scripted_readsFiles ?_).1⟩
  · rw [ha]
    decide +kernel
  · rw [ha₀]
    rfl
  · rw [hcjk, hcjk₀]
    decide +kernel

/-- **Isolation fails where a path is not set again**: the second document sees the picture of the
first. -/
theorem picture_leaks : Engine.ReadsFiles scripted ∧
    Survives scripted (some { templates := [] }) [illustrated] ∧
    [illustrated, unillustrated].any Request.needsCjk = false ∧
    (unillustrated.assets.paths = [] ∧
      (after scripted (some { templates := [] }) [illustrated]).map (fun w =>
        (w.compilerFor unillustrated).toOption.map (·.assets.paths)) = some (some ["x.png"])) ∧
    (outcome scripted (after scripted (some { templates := [] }) [illustrated]) unillustrated).2 ≠
      (outcome scripted (some { templates := [] }) unillustrated).2 := by
  refine ⟨scripted_readsFiles, ?_, ?_, ⟨rfl, ?_⟩, ?_⟩ <;> decide +kernel

end Worker

end Typeset.Compile
