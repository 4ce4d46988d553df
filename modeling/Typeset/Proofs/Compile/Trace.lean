/-
Requests that a worker serves one after another.

`trace` is what comes of each request, and `after` the worker that is left.
Both read requests from first to last, with nobody waiting and nothing in line:
they are what a queue, with clients and worker at their own pace, is measured
against. How one request goes is told case by case first.
-/
import Typeset.Compile.Worker

namespace Typeset.Compile

/-- What came of requests, in their order: the events, and the response if one was sent. -/
abbrev Served := List (List Event × Option Response)

namespace Worker

variable {engine : Engine} {w : Option Worker} {r : Request} {rs : List Request}

/-! ## One request -/

/-- How a worker comes to a compiler for a document. -/
inductive Acquires (w : Worker) (cjk : Bool) :
    List Event → Worker → Except Error Compiler → Prop
  /-- The loaded one will do. -/
  | kept {c : Compiler} (loaded : w.loaded = some c) (suits : c.cjk || !cjk) :
      Acquires w cjk [] w (.ok c)
  /-- There is none that will do, and one can be created. -/
  | created (needed : ∀ c, w.loaded = some c → (c.cjk || !cjk) = false)
      (succeeds : w.attempts.head?.join = none) :
      Acquires w cjk (.create cjk true :: w.templates.map fun t => .source t.path t.text)
        { w with
          attempts := w.attempts.tail
          loaded := some (({ cjk } : Compiler).addTemplates w.templates) }
        (.ok (({ cjk } : Compiler).addTemplates w.templates))
  /-- None can be created. -/
  | failed {reason : String} (needed : ∀ c, w.loaded = some c → (c.cjk || !cjk) = false)
      (fails : w.attempts.head?.join = some reason) :
      Acquires w cjk [.create cjk false] { w with attempts := w.attempts.tail, loaded := none }
        (.error (.setup reason))

theorem acquires_of_acquire {worker left : Worker} {cjk : Bool} {events : List Event}
    {e : Except Error Compiler} (h : worker.acquire cjk = (events, left, e)) :
    worker.Acquires cjk events left e := by
  have hload (needed : ∀ c, worker.loaded = some c → (c.cjk || !cjk) = false)
      (h : worker.load cjk = (events, left, e)) : worker.Acquires cjk events left e := by
    unfold load at h
    cases hattempt : worker.attempts.head?.join with
    | some reason =>
      rw [hattempt] at h
      obtain ⟨rfl, rfl, rfl⟩ : _ ∧ _ ∧ _ := by simpa using h
      exact .failed needed hattempt
    | none =>
      rw [hattempt] at h
      obtain ⟨rfl, rfl, rfl⟩ : _ ∧ _ ∧ _ := by simpa using h
      exact .created needed hattempt
  unfold acquire at h
  cases hloaded : worker.loaded with
  | none =>
    rw [hloaded] at h
    exact hload (fun c hc => by simp [hloaded] at hc) h
  | some c =>
    rw [hloaded] at h
    simp only at h
    split at h
    · rename_i suits
      obtain ⟨rfl, rfl, rfl⟩ : _ ∧ _ ∧ _ := by simpa using h
      exact .kept hloaded suits
    · rename_i hneeded
      refine hload (fun d hd => ?_) h
      obtain rfl : c = d := Option.some.inj (hloaded.symm.trans hd)
      exact Bool.eq_false_iff.2 hneeded

/-- How a worker serves a request. -/
inductive Processes (engine : Engine) (w : Worker) (r : Request) :
    List Event → Option (Response × Worker) → Prop
  /-- There is no compiler. -/
  | refused {events : List Event} {left : Worker} {e : Error}
      (acquired : w.acquire (Text.containsCjk r.main) = (events, left, .error e)) :
      Processes engine w r events (some (⟨r.id, .ofResult (.error e)⟩, left))
  | panicked {events : List Event} {left : Worker} {c : Compiler}
      (acquired : w.acquire (Text.containsCjk r.main) = (events, left, .ok c))
      (verdict : engine (c.addRequest r) Compiler.mainPath = .panicked) :
      Processes engine w r (events ++ requestEvents r) none
  | finished {events : List Event} {left : Worker} {c : Compiler}
      {artifact : Option (List UInt8)} {diagnostics : List String}
      (acquired : w.acquire (Text.containsCjk r.main) = (events, left, .ok c))
      (verdict : engine (c.addRequest r) Compiler.mainPath = .finished artifact diagnostics) :
      Processes engine w r (events ++ requestEvents r)
        (some (⟨r.id, .ofResult (resultOf artifact diagnostics)⟩,
          { left with loaded := some ((c.addRequest r).ran Compiler.mainPath) }))

theorem processes_of_process {worker : Worker} {events : List Event}
    {result : Option (Response × Worker)} (h : worker.process engine r = (events, result)) :
    worker.Processes engine r events result := by
  obtain ⟨acquired, left, e, hacquire⟩ :
      ∃ events left e, worker.acquire (Text.containsCjk r.main) = (events, left, e) :=
    ⟨_, _, _, rfl⟩
  cases e with
  | error e =>
    rw [process_of_error hacquire] at h
    obtain ⟨rfl, rfl⟩ := Prod.mk.inj h
    exact .refused hacquire
  | ok c =>
    rw [process_of_ok hacquire] at h
    obtain ⟨rfl, rfl⟩ := Prod.mk.inj h
    cases hv : engine (c.addRequest r) Compiler.mainPath with
    | panicked => exact .panicked hacquire hv
    | finished artifact diagnostics => exact .finished hacquire hv

/-! ## Requests in turn -/

/-- What comes of one request: the events, and the response if the worker lives on. -/
def outcome (engine : Engine) (w : Option Worker) (r : Request) : List Event × Option Response :=
  match w with
  | some w => ((w.process engine r).1, (w.process engine r).2.map (·.1))
  | none => ([], none)

/-- The worker behind one request. -/
def next (engine : Engine) (w : Option Worker) (r : Request) : Option Worker :=
  w.bind fun w => (w.process engine r).2.map (·.2)

/-- The worker behind requests that were served in turn. -/
def after (engine : Engine) (w : Option Worker) (rs : List Request) : Option Worker :=
  rs.foldl (next engine) w

/-- What comes of requests that are served in turn. -/
def trace (engine : Engine) : Option Worker → List Request → Served
  | _, [] => []
  | w, r :: rs => outcome engine w r :: trace engine (next engine w r) rs

/-- The compiler panics on none of the requests, served in turn. -/
def Survives (engine : Engine) (w : Option Worker) (rs : List Request) : Prop :=
  (after engine w rs).isSome

instance (engine : Engine) (w : Option Worker) (rs : List Request) :
    Decidable (Survives engine w rs) :=
  inferInstanceAs (Decidable (_ = true))

@[simp] theorem after_nil : after engine w [] = w := rfl

theorem after_cons : after engine w (r :: rs) = after engine (next engine w r) rs := rfl

theorem after_append {ss : List Request} :
    after engine w (rs ++ ss) = after engine (after engine w rs) ss :=
  List.foldl_append

@[simp] theorem after_none : after engine none rs = none := by
  induction rs with
  | nil => rfl
  | cons r rs ih => rw [after_cons, next, Option.bind_none, ih]

theorem after_take_succ {i : Nat} (h : rs[i]? = some r) :
    after engine w (rs.take (i + 1)) = next engine (after engine w (rs.take i)) r := by
  rw [List.take_add_one, h, after_append]
  rfl

@[simp] theorem length_trace : (trace engine w rs).length = rs.length := by
  induction rs generalizing w with
  | nil => rfl
  | cons r rs ih => simp [trace, ih]

/-- What comes of a request depends on those before it alone. -/
theorem getElem?_trace {i : Nat} :
    (trace engine w rs)[i]? = rs[i]?.map (outcome engine (after engine w (rs.take i))) := by
  induction rs generalizing w i with
  | nil => simp [trace]
  | cons r rs ih =>
    cases i with
    | zero => simp [trace]
    | succ i => simp [trace, ih, after_cons]

/-- What remembers those may be the compiler: one that counts its runs can fail at the second. -/
example :
    let counting : Engine := .ofState (fun _ => 0)
      (fun runs e => if e matches .compile _ then runs + 1 else runs)
      (fun runs _ _ => if runs = 0 then .finished none [] else .panicked)
    (trace counting (some { templates := [] }) (List.replicate 2 { id := "", main := "x" })).map
      (·.2.isSome) = [true, false] := by
  decide +kernel

theorem take_trace {i : Nat} : (trace engine w rs).take i = trace engine w (rs.take i) := by
  induction rs generalizing w i with
  | nil => simp [trace]
  | cons r rs ih =>
    cases i with
    | zero => simp [trace]
    | succ i => simp [trace, ih]

theorem drop_trace {i : Nat} :
    (trace engine w rs).drop i = trace engine (after engine w (rs.take i)) (rs.drop i) := by
  induction rs generalizing w i with
  | nil => simp [trace]
  | cons r rs ih =>
    cases i with
    | zero => simp
    | succ i => simp [trace, ih, after_cons]

theorem trace_none : trace engine none rs = List.replicate rs.length ([], none) := by
  induction rs with
  | nil => rfl
  | cons r rs ih =>
    rw [trace, outcome, next, Option.bind_none, ih]
    rfl

/-- A dead worker serves nothing, so whoever survives the last request survived every one. -/
theorem Survives.of_append {ss : List Request} (h : Survives engine w (rs ++ ss)) :
    Survives engine w rs := by
  unfold Survives at *
  rw [after_append] at h
  cases hw : after engine w rs with
  | none => simp [hw] at h
  | some => rfl

theorem Survives.take (h : Survives engine w rs) (i : Nat) : Survives engine w (rs.take i) := by
  rw [← List.take_append_drop i rs] at h
  exact h.of_append

theorem Survives.take_of_le {i j : Nat} (h : Survives engine w (rs.take j)) (hij : i ≤ j) :
    Survives engine w (rs.take i) := by
  rw [← Nat.min_eq_left hij, ← List.take_take]
  exact h.take i

/-- A request that a worker survives finds a worker, and leaves another. -/
theorem exists_process {i : Nat} (hr : rs[i]? = some r)
    (h : Survives engine w (rs.take (i + 1))) : ∃ worker events response left,
      after engine w (rs.take i) = some worker ∧
      worker.process engine r = (events, some (response, left)) ∧
      after engine w (rs.take (i + 1)) = some left ∧
      (trace engine w rs)[i]? = some (events, some response) := by
  obtain ⟨left, hleft⟩ := Option.isSome_iff_exists.1 h
  have hnext := hleft
  rw [after_take_succ hr] at hnext
  obtain ⟨worker, hworker, hmap⟩ := Option.bind_eq_some_iff.1 hnext
  obtain ⟨⟨response, _⟩, hp, rfl⟩ := Option.map_eq_some_iff.1 hmap
  refine ⟨worker, _, response, _, hworker, Prod.ext rfl hp, hleft, ?_⟩
  rw [getElem?_trace, hr, Option.map_some, hworker, outcome, hp, Option.map_some]

/-- **Every request is answered under its own id**, if the worker survives it. -/
theorem exists_response {i : Nat} (hr : rs[i]? = some r)
    (h : Survives engine w (rs.take (i + 1))) :
    ∃ events response,
      (trace engine w rs)[i]? = some (events, some response) ∧ response.id = r.id := by
  obtain ⟨worker, events, response, left, -, hprocess, -, htrace⟩ := exists_process hr h
  refine ⟨events, response, htrace, ?_⟩
  cases processes_of_process hprocess with
  | refused | finished => rfl

end Worker

end Typeset.Compile
