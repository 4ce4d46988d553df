/-
What a compile sees.

A log tells all that was done to compilers, so it can be replayed: a new
compiler starts empty, and what is registered replaces what stood at its path.
Replayed up to a compile, it gives the compiler that was run. That holds the
main document of the request at hand and the templates, and of what came before
nothing but assets.
-/
import Typeset.Proofs.Compile.Isolation
import Typeset.Proofs.Compile.Ledger

namespace Typeset.Compile

/-! ## Logs -/

namespace Event

/-- The attempt to create a compiler that an event is: for which fonts, and whether it succeeds. -/
def attempt? : Event → Option (Bool × Bool)
  | .create cjk ok => some (cjk, ok)
  | .source _ _ | .asset _ _ | .compile _ => none

/-- The compiler in use behind an event. A new one is empty, and a failure leaves none. -/
def apply (c : Option Compiler) : Event → Option Compiler
  | .create cjk true => some { cjk }
  | .create _ false => none
  | .source path text => c.map (·.addSource path text)
  | .asset path bytes => c.map (·.addAsset path bytes)
  | .compile path => c.map (·.ran path)

end Event

/-- The attempts to create a compiler in a log. -/
def attemptsIn (log : List Event) : List (Bool × Bool) := log.filterMap Event.attempt?

/-- The compiler in use behind a log. -/
def replay (log : List Event) : Option Compiler := log.foldl Event.apply none

section Logs

variable {log events : List Event} {c : Compiler}

theorem attemptsIn_append : attemptsIn (log ++ events) = attemptsIn log ++ attemptsIn events :=
  List.filterMap_append

theorem replay_append : replay (log ++ events) = events.foldl Event.apply (replay log) :=
  List.foldl_append

theorem foldl_apply_templates (c : Compiler) (templates : List TemplateFile) :
    (templates.map fun t => Event.source t.path t.text).foldl Event.apply (some c) =
      some (c.addTemplates templates) := by
  rw [Compiler.addTemplates, List.foldl_map]
  induction templates generalizing c with
  | nil => rfl
  | cons t ts ih => exact ih (c.addSource t.path t.text)

theorem foldl_apply_assets (c : Compiler) (entries : List (String × List UInt8)) :
    (entries.map fun a => Event.asset a.1 a.2).foldl Event.apply (some c) =
      some (entries.foldl (fun c a => c.addAsset a.1 a.2) c) := by
  rw [List.foldl_map]
  induction entries generalizing c with
  | nil => rfl
  | cons e es ih => exact ih (c.addAsset e.1 e.2)

/-- The events of registering the files of a request. -/
def registrations (r : Request) : List Event :=
  .source Compiler.mainPath r.main :: r.assets.entries.map fun a => .asset a.1 a.2

theorem requestEvents_eq (r : Request) :
    Worker.requestEvents r = registrations r ++ [.compile Compiler.mainPath] := rfl

theorem foldl_apply_registrations (c : Compiler) (r : Request) :
    (registrations r).foldl Event.apply (some c) = some (c.addRequest r) :=
  foldl_apply_assets (c.addSource Compiler.mainPath r.main) r.assets.entries

theorem attemptsIn_templates (templates : List TemplateFile) :
    attemptsIn (templates.map fun t => .source t.path t.text) = [] :=
  List.filterMap_eq_nil_iff.2 fun e he => by
    obtain ⟨t, -, rfl⟩ := List.mem_map.1 he
    rfl

theorem attemptsIn_requestEvents (r : Request) : attemptsIn (Worker.requestEvents r) = [] :=
  List.filterMap_eq_nil_iff.2 fun e he => by
    simp only [Worker.requestEvents, List.mem_append, List.mem_cons, List.mem_map,
      List.not_mem_nil, or_false] at he
    rcases he with (rfl | ⟨a, -, rfl⟩) | rfl <;> rfl

end Logs

/-! ## Sources -/

section Sources

variable {templates : List TemplateFile} {c : Compiler} {r : Request} {path : String}

/-- The sources of templates that are registered in turn. -/
def registered (templates : List TemplateFile) : PathMap String :=
  templates.foldl (fun m t => m.insert t.path t.text) ∅

/-- At every path there is the text of the last template with that path. -/
theorem get?_registered : (registered templates).get? path =
    (templates.reverse.find? (·.path == path)).map (·.text) := by
  unfold registered
  induction templates using List.reverseRecOn with
  | nil => rfl
  | append_singleton ts t ih =>
    rw [List.foldl_append, List.foldl_cons, List.foldl_nil, PathMap.get?_insert, ih,
      List.reverse_concat, List.find?_cons]
    by_cases hp : path = t.path
    · simp [hp]
    · have hne : (t.path == path) = false := by simpa using Ne.symm hp
      rw [if_neg hp, hne]

/-- The templates are registered, and at most the main document beside them. -/
def Compiler.Stocked (templates : List TemplateFile) (c : Compiler) : Prop :=
  ∀ text, c.sources.insert mainPath text = (registered templates).insert mainPath text

theorem stocked_addTemplates (cjk : Bool) (templates : List TemplateFile) :
    (({ cjk } : Compiler).addTemplates templates).Stocked templates := by
  intro text
  rw [Compiler.toFiles_addTemplates]
  rfl

theorem Compiler.Stocked.addRequest (h : c.Stocked templates) (r : Request) :
    (c.addRequest r).Stocked templates := by
  intro text
  rw [Compiler.sources_addRequest, PathMap.insert_insert, h text]

/-- **What a compile is to see**: of sources the document and the templates alone, every asset of
the request, and the fonts that the document needs. -/
structure Compiler.Sees (templates : List TemplateFile) (r : Request) (c : Compiler) : Prop where
  main : c.sources.get? "/main.typ" = some r.main
  others : ∀ path, path ≠ "/main.typ" →
    c.sources.get? path = (templates.reverse.find? (·.path == path)).map (·.text)
  /-- Nothing else is registered, no earlier document in particular. -/
  sources : ∀ path ∈ c.sources.paths, path = "/main.typ" ∨ ∃ t ∈ templates, t.path = path
  assets : ∀ path bytes, r.assets.get? path = some bytes → c.assets.get? path = some bytes
  cjk : r.needsCjk → c.cjk

theorem Compiler.Stocked.sees (h : c.Stocked templates) (hcjk : c.cjk || !r.needsCjk) :
    (c.addRequest r).Sees templates r := by
  have hsources : (c.addRequest r).sources = (registered templates).insert "/main.typ" r.main := by
    rw [Compiler.sources_addRequest]
    exact h r.main
  have htemplates (path : String) (hpath : path ≠ "/main.typ") :
      (c.addRequest r).sources.get? path =
        (templates.reverse.find? (·.path == path)).map (·.text) := by
    rw [hsources, PathMap.get?_insert, if_neg hpath, get?_registered]
  refine ⟨?_, htemplates, fun path hpath => ?_, fun path bytes hbytes => ?_, fun hr => ?_⟩
  · rw [hsources, PathMap.get?_insert, if_pos rfl]
  · by_cases hmain : path = "/main.typ"
    · exact .inl hmain
    · obtain ⟨⟨_, text⟩, hmem, rfl⟩ := List.mem_map.1 hpath
      have hget := PathMap.mem_entries_iff.1 hmem
      rw [htemplates _ hmain] at hget
      obtain ⟨t, hfind, -⟩ := Option.map_eq_some_iff.1 hget
      have hpath := List.find?_some hfind
      exact .inr ⟨t, List.mem_reverse.1 (List.mem_of_find?_eq_some hfind), by simpa using hpath⟩
  · rw [Compiler.assets_addRequest, PathMap.get?_overlay, hbytes, Option.some_or]
  · simpa [hr] using hcjk

end Sources

/-! ## A worker and its log -/

namespace Worker

variable {engine : Engine} {templates : List TemplateFile} {attempts : List (Option String)}
  {log events : List Event} {w left : Worker} {cjk : Bool} {e : Except Error Compiler} {r : Request}

/-- A worker that did what a log tells: it used up the outcome of each attempt, and its compiler is
that of the log. -/
structure Recorded (templates : List TemplateFile) (attempts : List (Option String))
    (log : List Event) (w : Worker) : Prop where
  templates_eq : w.templates = templates
  attempts_eq : w.attempts = attempts.drop (attemptsIn log).length
  loaded : w.loaded = replay log
  stocked : ∀ c, w.loaded = some c → c.Stocked templates

theorem recorded_nil (templates : List TemplateFile) (attempts : List (Option String)) :
    Recorded templates attempts [] { templates, attempts } :=
  ⟨rfl, rfl, rfl, fun c hc => by cases hc⟩

/-- What a worker that acquires a compiler does is in the log. -/
theorem Recorded.acquires (h : Recorded templates attempts log w)
    (ha : w.Acquires cjk events left e) : Recorded templates attempts (log ++ events) left ∧
      left.loaded = e.toOption ∧ ∀ c, e = .ok c → c.cjk || !cjk := by
  -- Whether the attempt succeeds or not, the log counts it, and its outcome is used up.
  have hattempt (ok : Bool) (templates : List TemplateFile) :
      w.attempts.tail = attempts.drop (attemptsIn (log ++
        .create cjk ok :: templates.map fun t => .source t.path t.text)).length := by
    rw [attemptsIn_append, List.length_append, ← List.drop_drop, ← h.attempts_eq, ← List.drop_one]
    exact congrArg (fun n => w.attempts.drop (n + 1))
      (congrArg List.length (attemptsIn_templates templates)).symm
  cases ha with
  | kept loaded suits =>
    rw [List.append_nil]
    refine ⟨h, loaded, fun c hc => ?_⟩
    obtain rfl := Except.ok.inj hc
    exact suits
  | created =>
    rw [h.templates_eq]
    refine ⟨⟨rfl, hattempt true templates, ?_, fun c hc => ?_⟩, rfl, fun c hc => ?_⟩
    · rw [replay_append]
      exact (foldl_apply_templates _ templates).symm
    · obtain rfl := Option.some.inj hc
      exact stocked_addTemplates cjk templates
    · obtain rfl := Except.ok.inj hc
      rw [Compiler.toFiles_addTemplates]
      simp
  | failed =>
    refine ⟨⟨h.templates_eq, hattempt false [], ?_, fun c hc => by cases hc⟩, rfl,
      fun c hc => by cases hc⟩
    rw [replay_append]
    rfl

theorem Recorded.addRequest (h : Recorded templates attempts log w) {c : Compiler}
    (hc : w.loaded = some c) (r : Request) :
    Recorded templates attempts (log ++ requestEvents r)
      { w with loaded := some ((c.addRequest r).ran Compiler.mainPath) } := by
  refine ⟨h.templates_eq, ?_, ?_, fun d hd => ?_⟩
  · rw [attemptsIn_append, attemptsIn_requestEvents, List.append_nil]
    exact h.attempts_eq
  · rw [requestEvents_eq, ← List.append_assoc, replay_append, replay_append, ← h.loaded, hc,
      foldl_apply_registrations]
    rfl
  · obtain rfl := Option.some.inj hd
    exact (h.stocked c hc).addRequest r

/-- What a worker that serves a request does is in the log. -/
theorem Recorded.process (h : Recorded templates attempts log w) {response : Response}
    (hp : w.process engine r = (events, some (response, left))) :
    Recorded templates attempts (log ++ events) left := by
  cases processes_of_process hp with
  | refused acquired => exact (h.acquires (acquires_of_acquire acquired)).1
  | finished acquired verdict =>
    obtain ⟨hleft, hloaded, -⟩ := h.acquires (acquires_of_acquire acquired)
    rw [← List.append_assoc]
    exact hleft.addRequest hloaded r

/-- **What a worker did is in the log**, through every request that it survived. -/
theorem recorded_after {rs : List Request} {i : Nat} (hi : i ≤ rs.length)
    (hw : after engine (some { templates, attempts }) (rs.take i) = some w) :
    Recorded templates attempts
      (eventsIn (trace engine (some { templates, attempts }) rs) 0 i) w := by
  induction i generalizing w with
  | zero =>
    obtain rfl := Option.some.inj hw
    rw [eventsIn_self]
    exact recorded_nil templates attempts
  | succ i ih =>
    obtain ⟨before, events, response, left, hbefore, hp, hleft, htrace⟩ :=
      exists_process (List.getElem?_eq_getElem hi) (Option.isSome_of_eq_some hw)
    obtain rfl := Option.some.inj (hleft.symm.trans hw)
    rw [← eventsIn_append (Nat.zero_le i) (Nat.le_succ i), eventsIn_succ htrace]
    exact (ih (Nat.le_of_lt hi) hbefore).process hp

/-! ## Compiles -/

theorem Acquires.not_mem_compile (h : w.Acquires cjk events left e) (path : String) :
    .compile path ∉ events := by
  cases h <;> simp

theorem not_mem_registrations (r : Request) (path : String) :
    .compile path ∉ registrations r := by
  simp [registrations]

theorem split_concat {α : Type} {xs before behind : List α} {x y : α} (hy : y ∉ xs)
    (h : xs ++ [x] = before ++ y :: behind) : before = xs ∧ y = x ∧ behind = [] := by
  obtain rfl | ⟨rest, z, rfl⟩ := List.eq_nil_or_concat' behind
  · obtain ⟨rfl, hx⟩ := List.append_inj' h rfl
    exact ⟨rfl, (List.singleton_inj.1 hx).symm, rfl⟩
  · rw [← List.cons_append, ← List.append_assoc] at h
    obtain ⟨rfl, -⟩ := List.append_inj' h rfl
    exact absurd (List.mem_append_right _ List.mem_cons_self) hy

/-- **The one compile of a request sees its own document**, on the compiler of the log. -/
theorem Recorded.compiles (h : Recorded templates attempts log w) {c : Compiler}
    (acquired : w.acquire r.needsCjk = (events, left, .ok c)) {before behind : List Event}
    {path : String} (hsplit : events ++ requestEvents r = before ++ .compile path :: behind) :
    behind = [] ∧ path = Compiler.mainPath ∧ replay (log ++ before) = some (c.addRequest r) ∧
      (c.addRequest r).Sees templates r := by
  obtain ⟨hleft, hloaded, hsuits⟩ := h.acquires (acquires_of_acquire acquired)
  have hnone : Event.compile path ∉ events ++ registrations r := fun hmem =>
    (List.mem_append.1 hmem).elim ((acquires_of_acquire acquired).not_mem_compile path)
      (not_mem_registrations r path)
  -- The compile is the last of the events, so the split can only be there.
  rw [requestEvents_eq, ← List.append_assoc] at hsplit
  obtain ⟨rfl, hpath, rfl⟩ := split_concat hnone hsplit
  refine ⟨rfl, Event.compile.inj hpath, ?_, (hleft.stocked c hloaded).sees (hsuits c rfl)⟩
  rw [← List.append_assoc, replay_append, ← hleft.loaded, hloaded]
  exact foldl_apply_registrations c r

/-- **Every compile sees its own document.** Whatever requests came before, and however creating
compilers went: a request is compiled once, last of all, and the log up to there, replayed from
nothing, gives a compiler with the main document, the templates and no other source, with the assets
of the request and the fonts that it needs. The response is what that compiler makes of it. -/
theorem compiles_own_document (engine : Engine) (templates : List TemplateFile)
    (attempts : List (Option String)) (rs : List Request) (i : Nat) (r : Request)
    (before behind : List Event) (path : String) (response : Option Response)
    (hr : rs[i]? = some r)
    (hsplit : (trace engine (some { templates, attempts }) rs)[i]? =
      some (before ++ .compile path :: behind, response)) :
    behind = [] ∧ path = "/main.typ" ∧ ∃ c,
      replay (eventsIn (trace engine (some { templates, attempts }) rs) 0 i ++ before) = some c ∧
      c.Sees templates r ∧ response = responseTo r (engine c path) := by
  have hi := (List.getElem?_eq_some_iff.1 hr).1
  rw [getElem?_trace, hr, Option.map_some, Option.some.injEq] at hsplit
  cases hw : after engine (some { templates, attempts }) (rs.take i) with
  | none =>
    rw [hw] at hsplit
    exact absurd (Prod.mk.inj hsplit).1.symm (by simp)
  | some w =>
    have hrecorded := recorded_after (Nat.le_of_lt hi) hw
    obtain ⟨events, result, hp⟩ : ∃ events result, w.process engine r = (events, result) :=
      ⟨_, _, rfl⟩
    rw [hw, outcome, hp] at hsplit
    obtain ⟨hevents, rfl⟩ : events = before ++ .compile path :: behind ∧
      result.map (·.1) = response := Prod.mk.inj hsplit
    cases processes_of_process hp with
    | refused acquired =>
      refine absurd ?_ ((acquires_of_acquire acquired).not_mem_compile path)
      rw [hevents]
      exact List.mem_append_right _ List.mem_cons_self
    | panicked acquired verdict =>
      obtain ⟨hbehind, rfl, hreplay, hsees⟩ := hrecorded.compiles acquired hevents
      exact ⟨hbehind, rfl, _, hreplay, hsees, by rw [verdict]; rfl⟩
    | finished acquired verdict =>
      obtain ⟨hbehind, rfl, hreplay, hsees⟩ := hrecorded.compiles acquired hevents
      exact ⟨hbehind, rfl, _, hreplay, hsees, by rw [verdict]; rfl⟩

/-- Two texts for one template, and one at the path of the main document. -/
def shelf : List TemplateFile := [⟨"/a.typ", "old"⟩, ⟨"/a.typ", "new"⟩, ⟨"/main.typ", "t"⟩]

/-- A document, and two that need more fonts, for the first of which there are none. -/
def letters : List Request :=
  [{ id := "", main := "x" }, { id := "", main := "漢" },
    { id := "", main := "字", assets := PathMap.ofList [("p.png", [1])] }]

/-- What is registered for the last of them. -/
def upgrade : List Event :=
  [.create true true, .source "/a.typ" "old", .source "/a.typ" "new", .source "/main.typ" "t",
    .source "/main.typ" "字", .asset "p.png" [1]]

theorem compiles_own_document_upgraded : ∃ response c,
    (trace scripted (some { templates := shelf, attempts := [none, some "no fonts"] })
      letters)[2]? = some (upgrade ++ .compile "/main.typ" :: [], response) ∧
    replay (eventsIn (trace scripted
      (some { templates := shelf, attempts := [none, some "no fonts"] }) letters) 0 2 ++ upgrade) =
      some c ∧
    c.sources.get? "/main.typ" = some "字" ∧ c.sources.get? "/a.typ" = some "new" ∧
    c.assets.get? "p.png" = some [1] ∧ c.cjk := by
  have hevents : ((trace scripted (some { templates := shelf, attempts := [none, some "no fonts"] })
      letters)[2]?).map (·.1) = some (upgrade ++ .compile "/main.typ" :: []) := by decide +kernel
  obtain ⟨⟨_, response⟩, htrace, rfl⟩ := Option.map_eq_some_iff.1 hevents
  obtain ⟨-, -, c, hreplay, hsees, -⟩ := compiles_own_document scripted shelf
    [none, some "no fonts"] letters 2 _ upgrade [] "/main.typ" response rfl htrace
  refine ⟨response, c, htrace, hreplay, hsees.main, ?_, hsees.assets _ _ (by decide +kernel),
    hsees.cjk (by decide +kernel)⟩
  rw [hsees.others "/a.typ" (by decide)]
  decide +kernel

end Worker

end Typeset.Compile
