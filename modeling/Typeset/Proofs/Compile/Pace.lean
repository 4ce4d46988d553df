/-
A client and a worker, each at its own pace.

A step of the client has a beginning and an end, and the worker takes requests
whenever it likes: before the step, and while the client is in it. A step that
needs a response ends when the response is there, and a drop ends when nothing
is in line any more. A step of a session is the case where the worker catches
up before the step ends.
-/
import Typeset.Compile.Session

namespace Typeset.Compile

namespace Queue

/-- The request that the worker takes next. -/
def upcoming (q : Queue) : Option Request :=
  if q.worker.isSome then q.jobs.head?.map (·.request) else none

/-- The requests that the worker takes when it goes on `n` times. -/
def taken (engine : Engine) : Nat → Queue → List Request
  | 0, _ => []
  | n + 1, q => q.upcoming.toList ++ taken engine n (q.advance engine)

/-- Takes the response of a handle out of its mailbox, and gives the handle up. None as long as
there is nothing to take. -/
def receive? (q : Queue) (h : Handle) : Option (Except Error Response × Queue) :=
  match q.mailboxes.lookup h.ticket with
  | some (some response) => some (.ok response, q.forget h)
  | _ => if q.worker.isNone then some (.error .workerTerminated, q.forget h) else none

end Queue

/-- What a client is in the middle of. -/
inductive Pending where
  | done (answer : Answer)
  /-- A request that the client waits for, and what it answers. -/
  | exchange (handle : Except Error Handle) (answer : Except Error Response → List Event → Answer)
  | wait (handle : Except Error Handle)
  | drop

/-- A step, with how often the worker goes on before and during it. -/
structure Turn where
  step : Step
  before : Nat
  during : Nat

namespace Session

/-- Puts a request in line for a client that waits for it at once. -/
def send (s : Session) (r : Request) : Except Error Handle × Session :=
  let (handle, queue) := s.queue.submit r
  (handle, { s with queue })

/-- Begins a step, if the session allows it. -/
def start? (s : Session) : Step → Option (Pending × Session)
  | .compile main assets id =>
    if s.queue.isOpen then
      let (handle, s) := s.send { id, main, assets }
      some (.exchange handle fun response events =>
        .compiled (Response.result response) events, s)
    else none
  | .request r =>
    if s.queue.isOpen then
      let (handle, s) := s.send r
      some (.exchange handle .responded, s)
    else none
  | .submit name main assets id =>
    if s.queue.isOpen then
      some (.done .submitted, s.submit name { id, main, assets })
    else none
  | .submitRequest name r =>
    if s.queue.isOpen then some (.done (.submittedAs r.id), s.submit name r) else none
  | .wait name =>
    (s.handles.lookup name).map fun handle =>
      (.wait handle, { s with handles := s.handles.filter (·.1 != name) })
  | .forget name =>
    if (s.handles.lookup name).isSome then some (.done .forgotten, s.release name) else none
  | .drop =>
    if s.queue.isOpen then some (.drop, { s with queue := { s.queue with isOpen := false } })
    else none

/-- The response of a handle, once there is one. A handle that was refused needs no waiting. -/
def receive? (s : Session) : Except Error Handle → Option (Except Error Response × Session)
  | .ok h => (s.queue.receive? h).map fun (response, queue) => (response, { s with queue })
  | .error e => some (.error e, s)

/-- Ends a step. None as long as the client has to wait. -/
def finish? (s : Session) : Pending → Option (Answer × Session)
  | .done answer => some (answer, s)
  | .exchange handle answer =>
    (s.receive? handle).map fun (response, s) =>
      (answer response s.readEvents.1, s.readEvents.2)
  | .wait handle =>
    (s.receive? handle).map fun (response, s) => (.waited (Response.result response), s)
  | .drop =>
    if s.queue.jobs.isEmpty then some (.dropped s.readEvents.1, s.readEvents.2) else none

/-- The worker goes on `n` times. -/
def work (engine : Engine) (n : Nat) (s : Session) : Session :=
  { s with queue := s.queue.advanceTimes engine n }

/-- Takes a turn: the requests that the worker took, and the answer. None where the session does not
allow the step, or the worker does not get far enough for it to end. -/
def turn? (engine : Engine) (s : Session) (t : Turn) :
    Option (List Request × Answer × Session) := do
  let (pending, s₁) ← (s.work engine t.before).start? t.step
  let (answer, s₂) ← (s₁.work engine t.during).finish? pending
  return (s.queue.taken engine t.before ++ s₁.queue.taken engine t.during, answer, s₂)

/-- Takes turns, to the last one. -/
def turns? (engine : Engine) (s : Session) :
    List Turn → Option (List Request × List Answer × Session)
  | [] => some ([], [], s)
  | t :: ts => do
    let (taken, answer, s) ← s.turn? engine t
    let (later, answers, s) ← turns? engine s ts
    return (taken ++ later, answer :: answers, s)

theorem turns?_cons_of_some {engine : Engine} {s s₁ : Session} {t : Turn} {ts : List Turn}
    {taken : List Request} {answer : Answer} (h : s.turn? engine t = some (taken, answer, s₁)) :
    s.turns? engine (t :: ts) =
      (s₁.turns? engine ts).map fun run => (taken ++ run.1, answer :: run.2.1, run.2.2) := by
  simp only [turns?, h, Option.bind_eq_bind, Option.bind_some]
  cases s₁.turns? engine ts <;> rfl

theorem turns?_cons_of_none {engine : Engine} {s : Session} {t : Turn} {ts : List Turn}
    (h : s.turn? engine t = none) : s.turns? engine (t :: ts) = none := by
  rw [turns?, h]
  rfl

end Session

/-! ## A worker that catches up -/

namespace Queue

variable {engine : Engine} {q : Queue} {n m : Nat}

theorem advance_of_worker_none (h : q.worker = none) : q.advance engine = q := by
  rw [advance, h]

theorem advance_of_jobs_nil (h : q.jobs = []) : q.advance engine = q := by
  rw [advance, h]
  cases q.worker <;> rfl

theorem advanceTimes_of_advance_eq (h : q.advance engine = q) (n : Nat) :
    advanceTimes engine n q = q := by
  induction n with
  | zero => rfl
  | succ n ih => rw [advanceTimes, h, ih]

/-- A worker that goes on has less in line than before, or nothing to go on with. -/
theorem length_jobs_advance (engine : Engine) (q : Queue) :
    q.advance engine = q ∨ (q.advance engine).jobs.length < q.jobs.length := by
  cases hw : q.worker with
  | none => exact .inl (advance_of_worker_none hw)
  | some worker =>
    cases hj : q.jobs with
    | nil => exact .inl (advance_of_jobs_nil hj)
    | cons job jobs =>
      refine .inr ?_
      rw [advance, hw, hj]
      simp only
      split
      · exact Nat.lt_succ_self _
      · exact Nat.succ_pos _

/-- It does not matter how often a worker goes on that has nothing in line any more. -/
theorem advanceTimes_eq_settle (h : q.jobs.length ≤ n) :
    advanceTimes engine n q = q.settle engine := by
  have hagree (n m : Nat) (q : Queue) (hn : q.jobs.length ≤ n) (hm : q.jobs.length ≤ m) :
      advanceTimes engine n q = advanceTimes engine m q := by
    induction n generalizing m q with
    | zero =>
      have hj : q.jobs = [] := List.eq_nil_of_length_eq_zero (Nat.le_zero.1 hn)
      rw [advanceTimes_of_advance_eq (advance_of_jobs_nil hj),
        advanceTimes_of_advance_eq (advance_of_jobs_nil hj)]
    | succ n ih =>
      rcases length_jobs_advance engine q with heq | hlt
      · rw [advanceTimes_of_advance_eq heq, advanceTimes_of_advance_eq heq]
      · obtain ⟨m, rfl⟩ : ∃ m', m = m' + 1 := ⟨m - 1, by omega⟩
        exact ih m (q.advance engine) (by omega) (by omega)
  exact hagree n _ q h (Nat.le_refl _)

theorem wait_of_receive? {handle : Handle} {response : Except Error Response} {q' : Queue}
    (h : (q.settle engine).receive? handle = some (response, q')) :
    q.wait engine handle = (response, q') := by
  unfold receive? at h
  unfold wait
  split at h
  · rename_i heq
    obtain ⟨rfl, rfl⟩ := Prod.mk.inj (Option.some.inj h)
    simp only [heq]
  · obtain ⟨-, h⟩ := Option.ite_none_right_eq_some.1 h
    obtain ⟨rfl, rfl⟩ := Prod.mk.inj (Option.some.inj h)
    simp only

/-- A request that is refused by an open queue finds the worker gone. -/
theorem submit_cases (hopen : q.isOpen) (r : Request) :
    (∃ handle q₁, q.submit r = (.ok handle, q₁) ∧ q₁.jobs.length = q.jobs.length + 1) ∨
      q.submit r = (.error .workerTerminated, q) ∧ q.worker = none := by
  unfold submit
  by_cases hw : q.worker.isSome
  · refine .inl ⟨_, _, if_pos (by simp [hopen, hw]), ?_⟩
    exact List.length_append
  · exact .inr ⟨if_neg (by simp [hw]), Option.not_isSome_iff_eq_none.1 hw⟩

theorem advance_close (engine : Engine) (q : Queue) :
    Queue.advance engine { q with isOpen := false } =
      { q.advance engine with isOpen := false } := by
  obtain ⟨worker, _, _, jobs, _, _⟩ := q
  cases worker with
  | none => rfl
  | some worker =>
    cases jobs with
    | nil => rfl
    | cons job jobs =>
      simp only [advance]
      cases (worker.process engine job.request).2 <;> rfl

theorem advanceTimes_close (engine : Engine) (n : Nat) (q : Queue) :
    advanceTimes engine n { q with isOpen := false } =
      { advanceTimes engine n q with isOpen := false } := by
  induction n generalizing q with
  | zero => rfl
  | succ n ih => rw [advanceTimes, advance_close, ih, advanceTimes]

end Queue

namespace Session

variable {engine : Engine} {s s' : Session} {n : Nat}

theorem request_of_receive? {r : Request} {response : Except Error Response}
    (hopen : s.queue.isOpen) (hn : s.queue.jobs.length < n)
    (h : ((s.send r).2.work engine n).receive? (s.send r).1 = some (response, s')) :
    s.request engine r = (response, s'.readEvents) := by
  unfold send at h
  unfold Session.request Queue.request
  rcases Queue.submit_cases hopen r with ⟨handle, q₁, hsubmit, hlen⟩ | ⟨hsubmit, hw⟩
  · rw [hsubmit] at h ⊢
    obtain ⟨⟨response, q⟩, hreceive, heq⟩ := Option.map_eq_some_iff.1 h
    obtain ⟨rfl, rfl⟩ := Prod.mk.inj heq
    have hcaught : (q₁.settle engine).receive? handle = some (response, q) := by
      rw [← Queue.advanceTimes_eq_settle (Nat.le_trans (Nat.le_of_eq hlen) hn)]
      exact hreceive
    simp only [Queue.wait_of_receive? hcaught]
    rfl
  · rw [hsubmit] at h ⊢
    obtain ⟨rfl, rfl⟩ := Prod.mk.inj (Option.some.inj h)
    unfold work
    rw [Queue.advanceTimes_of_advance_eq (Queue.advance_of_worker_none hw)]

end Session

/-- How often the worker goes on before a step of a session ends, with `n` to catch up. -/
def Pending.patience (n : Nat) : Pending → Nat
  | .done _ => 0
  | _ => n

namespace Session

variable {engine : Engine} {s s₁ s' : Session} {n : Nat}

/-- **A step of a session begins and ends as any other**, and the worker catches up in between
where the client has to wait. Only a dead worker can have refused what the client waits for. -/
theorem step?_of_finish? {step : Step} {pending : Pending} {answer : Answer}
    (hrefused : ∀ name e, s.handles.lookup name = some (.error e) → s.queue.worker = none)
    (hn : s.queue.jobs.length < n) (hstart : s.start? step = some (pending, s₁))
    (hfinish : (s₁.work engine (pending.patience n)).finish? pending = some (answer, s')) :
    s.step? engine step = some (answer, s') := by
  cases step with
  | compile main assets | request r =>
    obtain ⟨hopen, hstart⟩ := Option.ite_none_right_eq_some.1 hstart
    obtain ⟨rfl, rfl⟩ := Prod.mk.inj (Option.some.inj hstart)
    obtain ⟨⟨response, s₂⟩, hreceive, heq⟩ := Option.map_eq_some_iff.1 hfinish
    obtain ⟨rfl, rfl⟩ := Prod.mk.inj heq
    rw [step?, if_pos hopen, request_of_receive? hopen hn hreceive]
  | submit | submitRequest | forget =>
    obtain ⟨hallowed, hstart⟩ := Option.ite_none_right_eq_some.1 hstart
    obtain ⟨rfl, rfl⟩ := Prod.mk.inj (Option.some.inj hstart)
    obtain ⟨rfl, rfl⟩ := Prod.mk.inj (Option.some.inj hfinish)
    rw [step?, if_pos hallowed]
    rfl
  | wait name =>
    obtain ⟨handle, hlookup, heq⟩ := Option.map_eq_some_iff.1 hstart
    obtain ⟨rfl, rfl⟩ := Prod.mk.inj heq
    obtain ⟨⟨response, s₂⟩, hreceive, heq⟩ := Option.map_eq_some_iff.1 hfinish
    obtain ⟨rfl, rfl⟩ := Prod.mk.inj heq
    cases handle with
    | error e =>
      obtain ⟨rfl, rfl⟩ := Prod.mk.inj (Option.some.inj hreceive)
      have hdead : s.queue.advance engine = s.queue :=
        Queue.advance_of_worker_none (hrefused name e hlookup)
      have hrelease : s.release name = { s with handles := s.handles.filter (·.1 != name) } := by
        rw [release, hlookup]
      rw [step?, wait?, hlookup, Option.map_some, Option.map_some]
      simp only [hrelease, work, Queue.advanceTimes_of_advance_eq hdead]
    | ok handle =>
      obtain ⟨⟨response, q⟩, hqueue, heq⟩ := Option.map_eq_some_iff.1 hreceive
      obtain ⟨rfl, rfl⟩ := Prod.mk.inj heq
      have hcaught : (s.queue.settle engine).receive? handle = some (response, q) := by
        rw [← Queue.advanceTimes_eq_settle (Nat.le_of_lt hn)]
        exact hqueue
      rw [step?, wait?, hlookup, Option.map_some, Option.map_some]
      simp only [Queue.wait_of_receive? hcaught]
      rfl
  | drop =>
    obtain ⟨hopen, hstart⟩ := Option.ite_none_right_eq_some.1 hstart
    obtain ⟨rfl, rfl⟩ := Prod.mk.inj (Option.some.inj hstart)
    obtain ⟨-, heq⟩ := Option.ite_none_right_eq_some.1 hfinish
    obtain ⟨rfl, rfl⟩ := Prod.mk.inj (Option.some.inj heq)
    rw [step?, if_pos hopen]
    unfold Session.drop Queue.close work Pending.patience
    rw [Queue.advanceTimes_close, Queue.advanceTimes_eq_settle (Nat.le_of_lt hn)]

theorem step?_eq_none {step : Step} (hstart : s.start? step = none) :
    s.step? engine step = none := by
  cases step with
  | wait name =>
    rw [step?, wait?, Option.map_eq_none_iff.1 hstart]
    rfl
  | _ =>
    simp only [start?, ite_eq_right_iff, reduceCtorEq, imp_false] at hstart
    exact if_neg hstart

end Session

end Typeset.Compile
