/-
When compilers are created.

The log has one segment for each request, and what stands in it is known from
the attempts to create a compiler that the log tells of so far. A compiler is
created for the first request, and anew where the last attempt failed or the
loaded one lacks the fonts. A failure leaves a worker like a new one, and a
compiler with all fonts is kept for good.
-/
import Typeset.Proofs.Compile.Order
import Typeset.Proofs.Compile.Replay
import Typeset.Proofs.Text.Bytes

namespace Typeset.Compile

variable {templates : List TemplateFile} {attempts : List (Option String)}
  {log events before behind : List Event} {r : Request} {response : Response}

/-! ## Attempts -/

/-- Whether the loaded compiler has all fonts, none where there is no compiler: no attempt to create
one was made yet, or the latest failed. -/
def fontsIn (log : List Event) : Option Bool :=
  (attemptsIn log).getLast?.bind fun a => if a.2 then some a.1 else none

/-- A request for which a compiler has to be created. -/
def NeedsCompiler (log : List Event) (r : Request) : Prop :=
  fontsIn log = none ∨ fontsIn log = some false ∧ r.needsCjk

instance (log : List Event) (r : Request) : Decidable (NeedsCompiler log r) :=
  inferInstanceAs (Decidable (_ ∨ _))

/-- How the attempt behind a log ends: by a failure with its reason, or well. -/
def nextOutcome (attempts : List (Option String)) (log : List Event) : Option String :=
  attempts[(attemptsIn log).length]?.join

/-- A new worker, for the attempts behind a log. -/
def freshWorker (templates : List TemplateFile) (attempts : List (Option String))
    (log : List Event) : Worker :=
  { templates, attempts := attempts.drop (attemptsIn log).length }

/-- The segment of a request behind a log, and the response to it. -/
inductive Segment (templates : List TemplateFile) (attempts : List (Option String))
    (log : List Event) (r : Request) : List Event → Response → Prop
  /-- The loaded compiler is used. -/
  | kept (response : Response) (ready : ¬ NeedsCompiler log r) :
      Segment templates attempts log r
        (.source "/main.typ" r.main :: r.assets.entries.map (fun a => .asset a.1 a.2) ++
          [.compile "/main.typ"])
        response
  /-- One is created, and receives the templates at once. -/
  | created (response : Response) (needed : NeedsCompiler log r)
      (succeeds : nextOutcome attempts log = none) :
      Segment templates attempts log r
        (.create r.needsCjk true :: templates.map (fun t => .source t.path t.text) ++
          (.source "/main.typ" r.main :: r.assets.entries.map (fun a => .asset a.1 a.2) ++
            [.compile "/main.typ"]))
        response
  /-- None can be created, which is all that happens, and the request is told why. -/
  | failed {reason : String} (needed : NeedsCompiler log r)
      (fails : nextOutcome attempts log = some reason) :
      Segment templates attempts log r [.create r.needsCjk false]
        ⟨r.id, .err (Error.setup reason).message []⟩

/-- The compiler of the log has the fonts of the latest attempt. -/
theorem map_cjk_replay (log : List Event) : (replay log).map (·.cjk) = fontsIn log := by
  induction log using List.reverseRecOn with
  | nil => rfl
  | append_singleton log e ih =>
    rw [replay_append, fontsIn, attemptsIn_append]
    cases e with
    | create cjk ok => cases ok <;> simp [attemptsIn, Event.attempt?, Event.apply]
    | source | asset | compile =>
      simp only [attemptsIn, List.filterMap_cons, Event.attempt?, List.filterMap_nil,
        List.append_nil]
      rw [← attemptsIn, ← fontsIn, ← ih]
      cases replay log <;> rfl

/-! ## One request -/

theorem Segment.attemptsIn_eq (h : Segment templates attempts log r events response) :
    attemptsIn events =
      if NeedsCompiler log r then [(r.needsCjk, (nextOutcome attempts log).isNone)] else [] := by
  cases h with
  | kept _ ready =>
    rw [if_neg ready]
    exact attemptsIn_requestEvents r
  | created _ needed succeeds =>
    rw [if_pos needed, succeeds, attemptsIn_append, ← List.singleton_append, attemptsIn_append,
      attemptsIn_templates]
    exact congrArg _ (attemptsIn_requestEvents r)
  | failed needed fails =>
    rw [if_pos needed, fails]
    rfl

namespace Worker

variable {engine : Engine} {w left : Worker}

theorem Recorded.needsCompiler_iff (h : Recorded templates attempts log w) (r : Request) :
    NeedsCompiler log r ↔ ∀ c, w.loaded = some c → (c.cjk || !r.needsCjk) = false := by
  rw [NeedsCompiler, ← map_cjk_replay, ← h.loaded]
  cases w.loaded <;> simp

theorem Recorded.nextOutcome_eq (h : Recorded templates attempts log w) :
    nextOutcome attempts log = w.attempts.head?.join := by
  rw [nextOutcome, h.attempts_eq, List.head?_drop]

/-- **What a worker does for a request is its segment.** -/
theorem Recorded.segment (h : Recorded templates attempts log w)
    (hp : w.process engine r = (events, some (response, left))) :
    Segment templates attempts log r events response := by
  have hneeds := h.needsCompiler_iff r
  have hnext := h.nextOutcome_eq
  cases processes_of_process hp with
  | refused acquired =>
    cases acquires_of_acquire acquired with
    | failed needed fails => exact .failed (hneeds.2 needed) (hnext.trans fails)
  | finished acquired verdict =>
    cases acquires_of_acquire acquired with
    | kept loaded suits =>
      refine .kept _ fun needed => ?_
      have hsuits := hneeds.1 needed _ loaded
      exact absurd (hsuits.symm.trans suits) (by simp)
    | created needed succeeds =>
      rw [h.templates_eq]
      exact .created _ (hneeds.2 needed) (hnext.trans succeeds)

/-- A failure leaves a worker like a new one. -/
theorem Recorded.fresh (h : Recorded templates attempts log w) {cjk : Bool}
    (hp : w.process engine r = (events, some (response, left)))
    (hmem : .create cjk false ∈ events) :
    left = freshWorker templates attempts (log ++ events) := by
  have hleft := h.process hp
  have hloaded : left.loaded = none := by
    cases processes_of_process hp with
    | refused acquired =>
      cases acquires_of_acquire acquired with
      | failed => rfl
    | finished acquired verdict =>
      cases acquires_of_acquire acquired <;> simp [requestEvents] at hmem
  obtain ⟨_, _, _⟩ := left
  rw [freshWorker, ← hleft.templates_eq, ← hleft.attempts_eq, ← hloaded]

/-! ## Requests in turn -/

variable {rs : List Request} {i : Nat}

/-- **Every request has its segment**, and leaves a worker that did what the log tells. -/
theorem exists_segment (hall : Survives engine (some { templates, attempts }) rs)
    (hr : rs[i]? = some r) : ∃ events response,
      (trace engine (some { templates, attempts }) rs)[i]? = some (events, some response) ∧
      Segment templates attempts
        (eventsIn (trace engine (some { templates, attempts }) rs) 0 i) r events response ∧
      ∀ cjk, .create cjk false ∈ events →
        after engine (some { templates, attempts }) (rs.take (i + 1)) =
          some (freshWorker templates attempts
            (eventsIn (trace engine (some { templates, attempts }) rs) 0 (i + 1))) := by
  obtain ⟨w, events, response, left, hw, hp, hleft, htrace⟩ :=
    exists_process hr (hall.take (i + 1))
  have hi := (List.getElem?_eq_some_iff.1 hr).1
  have hrecorded := recorded_after (Nat.le_of_lt hi) hw
  refine ⟨events, response, htrace, hrecorded.segment hp, fun cjk hmem => ?_⟩
  rw [hleft, hrecorded.fresh hp hmem, ← eventsIn_append (Nat.zero_le i) (Nat.le_succ i),
    eventsIn_succ htrace]

end Worker

/-! ## The last attempt -/

/-- A log with no attempt behind a compiler with all fonts. -/
def Final (log : List Event) : Prop := ∀ a ∈ (attemptsIn log).dropLast, a ≠ (true, true)

/-- Where a compiler is needed, the latest attempt gave none with all fonts. -/
theorem NeedsCompiler.not_mem (h : NeedsCompiler log r) (hlog : Final log) :
    (true, true) ∉ attemptsIn log := by
  intro hmem
  -- Only the last attempt can be such a one, and that is the one that `fontsIn` reads.
  obtain hnil | ⟨init, last, hsplit⟩ := List.eq_nil_or_concat' (attemptsIn log)
  · simp [hnil] at hmem
  · rw [hsplit] at hmem
    rw [Final, hsplit, List.dropLast_concat] at hlog
    rcases List.mem_append.1 hmem with hinit | hlast
    · exact hlog _ hinit rfl
    · have hfonts : fontsIn log = some true := by
        rw [fontsIn, hsplit, List.getLast?_concat, ← List.mem_singleton.1 hlast]
        rfl
      simp [NeedsCompiler, hfonts] at h

theorem Segment.final (h : Segment templates attempts log r events response) (hlog : Final log) :
    Final (log ++ events) := by
  rw [Final, attemptsIn_append, h.attemptsIn_eq]
  by_cases hneeds : NeedsCompiler log r
  · rw [if_pos hneeds, List.dropLast_concat]
    exact fun a ha heq => hneeds.not_mem hlog (heq ▸ ha)
  · rw [if_neg hneeds, List.append_nil]
    exact hlog

theorem Final.attemptsIn_eq_nil (h : Final (before ++ .create true true :: behind)) :
    attemptsIn behind = [] := by
  by_contra hbehind
  have hattempts : attemptsIn (before ++ .create true true :: behind) =
      attemptsIn before ++ (true, true) :: attemptsIn behind := attemptsIn_append
  rw [Final, hattempts, List.dropLast_append_cons, List.dropLast_cons_of_ne_nil hbehind] at h
  exact h _ (List.mem_append_right _ List.mem_cons_self) rfl

namespace Worker

variable {engine : Engine} {rs : List Request} {i : Nat}

theorem final_log (hall : Survives engine (some { templates, attempts }) rs) (hi : i ≤ rs.length) :
    Final (eventsIn (trace engine (some { templates, attempts }) rs) 0 i) := by
  induction i with
  | zero =>
    rw [eventsIn_self]
    intro a ha
    cases ha
  | succ i ih =>
    obtain ⟨events, response, htrace, hsegment, -⟩ :=
      exists_segment hall (List.getElem?_eq_getElem hi)
    rw [← eventsIn_append (Nat.zero_le i) (Nat.le_succ i), eventsIn_succ htrace]
    exact hsegment.final (ih (Nat.le_of_lt hi))

/-! ## The theorem -/

/-- **When compilers are created**, over requests in turn and what came of them. -/
structure Lifecycle (engine : Engine) (templates : List TemplateFile)
    (attempts : List (Option String)) (rs : List Request) (served : Served) : Prop where
  /-- There is one segment for each request. -/
  one_each : served.length = rs.length
  segments : ∀ i r, rs[i]? = some r → ∃ events response,
    served[i]? = some (events, some response) ∧
      Segment templates attempts (eventsIn served 0 i) r events response
  /-- A segment has an attempt, for the fonts that the document needs, exactly if there is no
  compiler or the loaded one lacks fonts that it needs. -/
  attempted : ∀ i r events response, rs[i]? = some r → served[i]? = some (events, response) →
    attemptsIn events = if NeedsCompiler (eventsIn served 0 i) r then
      [(r.needsCjk, (nextOutcome attempts (eventsIn served 0 i)).isNone)] else []
  /-- Each asset is registered once, in ascending order of the bytes of the paths. -/
  assets : ∀ r ∈ rs,
    (r.assets.entries.Pairwise fun a b => a.1.toUTF8.data.toList < b.1.toUTF8.data.toList) ∧
    ∀ path bytes, (path, bytes) ∈ r.assets.entries ↔ r.assets.get? path = some bytes
  /-- Behind a failed attempt all goes as with a new worker and the outcomes that are left. -/
  retried : ∀ i events response cjk, served[i]? = some (events, response) →
    .create cjk false ∈ events →
    after engine (some { templates, attempts }) (rs.take (i + 1)) =
        some (freshWorker templates attempts (eventsIn served 0 (i + 1))) ∧
      served.drop (i + 1) = trace engine
        (some (freshWorker templates attempts (eventsIn served 0 (i + 1)))) (rs.drop (i + 1))
  /-- Once there is a compiler with all fonts no other is created. -/
  once : ∀ before behind, served.flatMap (·.1) = before ++ .create true true :: behind →
    attemptsIn behind = []
  /-- These segments are the log that a client reads, whose requests they are. -/
  log : ∀ steps answers, submissions steps = rs →
    (Session.start templates attempts).run? engine steps = some answers →
    answers.flatMap Answer.events = served.flatMap (·.1)

/-- **The lifecycle of compilers**, for every list of templates, every outcome of creating them and
all requests on which they do not panic. -/
theorem compiler_lifecycle (engine : Engine) (templates : List TemplateFile)
    (attempts : List (Option String)) (rs : List Request)
    (hall : Survives engine (some { templates, attempts }) rs) :
    Lifecycle engine templates attempts rs
      (trace engine (some { templates, attempts }) rs) := by
  refine ⟨length_trace, fun i r hr => ?_, fun i r events response hr hserved => ?_,
    fun r _ => ⟨?_, fun path bytes => PathMap.mem_entries_iff⟩,
    fun i events response cjk hserved hmem => ?_, fun before behind hlog => ?_,
    fun steps answers hsub hanswers => ?_⟩
  · obtain ⟨events, response, htrace, hsegment, -⟩ := exists_segment hall hr
    exact ⟨events, response, htrace, hsegment⟩
  · obtain ⟨_, _, htrace, hsegment, -⟩ := exists_segment hall hr
    obtain ⟨rfl, rfl⟩ := Prod.mk.inj (Option.some.inj (htrace.symm.trans hserved))
    exact hsegment.attemptsIn_eq
  · exact r.assets.sorted.imp Text.toUTF8_lt
  · obtain ⟨hi, -⟩ := List.getElem?_eq_some_iff.1 hserved
    rw [length_trace] at hi
    obtain ⟨_, _, htrace, -, hfresh⟩ := exists_segment hall (List.getElem?_eq_getElem hi)
    obtain ⟨rfl, rfl⟩ := Prod.mk.inj (Option.some.inj (htrace.symm.trans hserved))
    have hafter := hfresh cjk hmem
    exact ⟨hafter, by rw [drop_trace, hafter]⟩
  · have hfinal := final_log hall (Nat.le_refl rs.length)
    rw [eventsIn_all (Nat.le_of_eq length_trace), hlog] at hfinal
    exact hfinal.attemptsIn_eq_nil
  · rw [Session.run?_start hall hsub] at hanswers
    obtain ⟨⟨receipts, l⟩, hsteps, rfl⟩ := Option.map_eq_some_iff.1 hanswers
    subst hsub
    exact Ledger.flatMap_events_final hsteps length_trace

theorem compiler_lifecycle_letters :
    Survives scripted (some { templates := shelf, attempts := [none, some "no fonts"] }) letters ∧
    Lifecycle scripted shelf [none, some "no fonts"] letters
      (trace scripted (some { templates := shelf, attempts := [none, some "no fonts"] })
        letters) := by
  have hall : Survives scripted (some { templates := shelf, attempts := [none, some "no fonts"] })
      letters := by decide +kernel
  exact ⟨hall, compiler_lifecycle scripted shelf [none, some "no fonts"] letters hall⟩

end Worker

end Typeset.Compile
