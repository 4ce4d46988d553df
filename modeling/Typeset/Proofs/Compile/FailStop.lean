/-
When the compiler panics.

A worker whose compiler panics on a request stops there. The requests before it
end as if there were no others, whether or not somebody waited for them by then.
It and all behind it end with the news that the worker is gone, the log ends with
that one compile, and neither a wait nor the drop of the queue goes on for ever.
-/
import Typeset.Proofs.Compile.Order
import Typeset.Proofs.Compile.Replay

namespace Typeset.Compile

def Verdict.isPanic : Verdict → Bool
  | .panicked => true
  | .finished _ _ => false

namespace Worker

variable {engine : Engine} {w : Option Worker} {rs : List Request} {r : Request} {k : Nat}

/-! ## Where it panics -/

/-- Whether the compiler panics on a request. One that could not be set up does not get there. -/
def panics (engine : Engine) (w : Worker) (r : Request) : Bool :=
  (w.compilerFor r).toOption.any fun c => (engine c Compiler.mainPath).isPanic

/-- A worker comes to the request at a place, with no panic before, and its compiler panics on
it. -/
def PanicsAt (engine : Engine) (w : Option Worker) (rs : List Request) (k : Nat) : Prop :=
  (after engine w (rs.take k)).any fun worker => rs[k]?.any (worker.panics engine)

instance (engine : Engine) (w : Option Worker) (rs : List Request) (k : Nat) :
    Decidable (PanicsAt engine w rs k) :=
  inferInstanceAs (Decidable (_ = true))

theorem panicsAt_iff : PanicsAt engine w rs k ↔ ∃ worker r,
    after engine w (rs.take k) = some worker ∧ rs[k]? = some r ∧ worker.panics engine r := by
  simp [PanicsAt, Option.any_eq_true]

theorem panics_eq {worker left : Worker} {events : List Event} {c : Compiler}
    (acquired : worker.acquire r.needsCjk = (events, left, .ok c)) :
    worker.panics engine r = (engine (c.addRequest r) Compiler.mainPath).isPanic := by
  rw [panics, compilerFor_eq acquired]
  rfl

/-- A compiler that panics leaves no worker behind, and the compile of the main document was the
last that happened. -/
theorem process_of_panics {worker : Worker} (h : worker.panics engine r) :
    ∃ events, worker.process engine r = (events ++ [.compile Compiler.mainPath], none) := by
  obtain ⟨events, result, hprocess⟩ :
      ∃ events result, worker.process engine r = (events, result) := ⟨_, _, rfl⟩
  rw [hprocess]
  cases processes_of_process hprocess with
  | refused acquired =>
    rw [panics, compilerFor_eq acquired] at h
    cases h
  | @panicked acquired _ _ hacquire verdict =>
    refine ⟨acquired ++ registrations r, ?_⟩
    rw [requestEvents_eq, List.append_assoc]
  | finished acquired verdict =>
    rw [panics_eq acquired, verdict] at h
    cases h

theorem PanicsAt.survives (h : PanicsAt engine w rs k) : Survives engine w (rs.take k) := by
  obtain ⟨worker, -, hafter, -⟩ := panicsAt_iff.1 h
  simp [Survives, hafter]

theorem PanicsAt.lt (h : PanicsAt engine w rs k) : k < rs.length := by
  obtain ⟨-, r, -, hr, -⟩ := panicsAt_iff.1 h
  exact (List.getElem?_eq_some_iff.1 hr).1

theorem PanicsAt.getElem?_trace (h : PanicsAt engine w rs k) :
    ∃ events, (trace engine w rs)[k]? = some (events ++ [.compile Compiler.mainPath], none) := by
  obtain ⟨worker, r, hafter, hr, hp⟩ := panicsAt_iff.1 h
  obtain ⟨events, hprocess⟩ := process_of_panics hp
  refine ⟨events, ?_⟩
  rw [Worker.getElem?_trace, hr, Option.map_some, hafter, outcome, hprocess]
  rfl

theorem PanicsAt.died (h : PanicsAt engine w rs k) :
    after engine w (rs.take (k + 1)) = none := by
  obtain ⟨worker, r, hafter, hr, hp⟩ := panicsAt_iff.1 h
  obtain ⟨events, hprocess⟩ := process_of_panics hp
  rw [after_take_succ hr, hafter, next, Option.bind_some, hprocess]
  rfl

/-- Nothing comes of the requests behind it. -/
theorem PanicsAt.trace_eq (h : PanicsAt engine w rs k) :
    trace engine w rs =
      trace engine w (rs.take (k + 1)) ++ List.replicate (rs.length - (k + 1)) ([], none) := by
  calc trace engine w rs
      = (trace engine w rs).take (k + 1) ++ (trace engine w rs).drop (k + 1) :=
        (List.take_append_drop ..).symm
    _ = _ := by rw [take_trace, drop_trace, h.died, trace_none, List.length_drop]

theorem PanicsAt.trace_take_succ (h : PanicsAt engine w rs k) : ∃ events,
    trace engine w (rs.take (k + 1)) =
      trace engine w (rs.take k) ++ [(events ++ [.compile Compiler.mainPath], none)] := by
  obtain ⟨events, hk⟩ := h.getElem?_trace
  refine ⟨events, ?_⟩
  rw [← take_trace, List.take_add_one, hk, take_trace]
  rfl

theorem PanicsAt.survives_take_iff (h : PanicsAt engine w rs k) {i : Nat} :
    Survives engine w (rs.take i) ↔ i ≤ k := by
  refine ⟨fun hi => Nat.not_lt.1 fun hlt => ?_, h.survives.take_of_le⟩
  have hsucc := hi.take_of_le hlt
  simp [Survives, h.died] at hsucc

end Worker

/-! ## Requests of which nothing comes -/

section Silence

variable {served rest : Served} {n ticket a b : Nat}

theorem sentIn_append (h : ∀ e ∈ rest, e.2 = none) :
    sentIn (served ++ rest) ticket = sentIn served ticket := by
  by_cases hlt : ticket < served.length
  · rw [sentIn, List.getElem?_append_left hlt, sentIn]
  · have hle := Nat.not_lt.1 hlt
    rw [sentIn, sentIn, List.getElem?_append_right hle, List.getElem?_eq_none hle,
      Option.bind_none, Option.bind_eq_none_iff]
    intro e he
    exact h e (List.mem_of_getElem? he)

/-- Requests to which nothing is sent change no response. -/
theorem responseIn_append (h : ∀ e ∈ rest, e.2 = none) :
    responseIn (served ++ rest) ticket = responseIn served ticket := by
  rw [responseIn, sentIn_append h, responseIn]

theorem responseIn_append_silent :
    responseIn (served ++ List.replicate n ([], none)) ticket = responseIn served ticket :=
  responseIn_append fun e he => by rw [(List.mem_replicate.1 he).2]

theorem eventsIn_append_silent :
    eventsIn (served ++ List.replicate n ([], none)) a b = eventsIn served a b := by
  have hnil (m i : Nat) :
      (((List.replicate n (([], none) : List Event × Option Response)).take m).drop i).flatMap
        (·.1) = [] := by
    refine List.flatMap_eq_nil_iff.2 fun e he => ?_
    rw [(List.mem_replicate.1 (List.mem_of_mem_take (List.mem_of_mem_drop he))).2]
  rw [eventsIn, List.take_append, List.drop_append, List.flatMap_append, hnil, List.append_nil]
  rfl

theorem Receipt.answer_append_silent :
    Receipt.answer (served ++ List.replicate n ([], none)) = Receipt.answer served := by
  funext receipt
  cases receipt <;>
    simp only [Receipt.answer, responseIn_append_silent, eventsIn_append_silent]

end Silence

section Panics

variable {engine : Engine} {w : Option Worker} {all : List Request} {k ticket : Nat}

theorem sentIn_of_panicsAt (hp : Worker.PanicsAt engine w all k) (ticket : Nat) :
    sentIn (Worker.trace engine w (all.take (k + 1))) ticket =
      sentIn (Worker.trace engine w (all.take k)) ticket := by
  obtain ⟨events, hlast⟩ := hp.trace_take_succ
  rw [hlast]
  exact sentIn_append (by simp)

theorem responseIn_of_panicsAt (hp : Worker.PanicsAt engine w all k) (ticket : Nat) :
    responseIn (Worker.trace engine w (all.take (k + 1))) ticket =
      responseIn (Worker.trace engine w (all.take k)) ticket := by
  rw [responseIn, sentIn_of_panicsAt hp, responseIn]

theorem responseIn_of_panicsAt_le (hp : Worker.PanicsAt engine w all k) (hk : k ≤ ticket) :
    responseIn (Worker.trace engine w (all.take (k + 1))) ticket = .error .workerTerminated := by
  have hlen : (Worker.trace engine w (all.take k)).length ≤ ticket := by
    rw [Worker.length_trace]
    exact Nat.le_trans (List.length_take_le ..) hk
  rw [responseIn_of_panicsAt hp, responseIn, sentIn, List.getElem?_eq_none hlen]
  rfl

theorem answer_of_panicsAt (hp : Worker.PanicsAt engine w all k) :
    Receipt.answer (Worker.trace engine w all) =
      Receipt.answer (Worker.trace engine w (all.take (k + 1))) := by
  rw [hp.trace_eq, Receipt.answer_append_silent]

theorem log_of_panicsAt (hp : Worker.PanicsAt engine w all k) :
    (Worker.trace engine w all).flatMap (·.1) =
      (Worker.trace engine w (all.take (k + 1))).flatMap (·.1) := by
  rw [hp.trace_eq, List.flatMap_append]
  simp

end Panics

/-! ## Results -/

/-- The request whose end a receipt tells. -/
def Receipt.ticket? : Receipt → Option Nat
  | .compiled ticket _ | .responded ticket _ | .waited ticket => some ticket
  | .submitted | .submittedAs _ | .forgotten | .dropped _ _ => none

/-- How a request ended, if an answer tells that. -/
def Answer.result? : Answer → Option (Except Error Pdf)
  | .compiled result _ | .waited result => some result
  | .responded response _ => some (Response.result response)
  | .submitted | .submittedAs _ | .forgotten | .dropped _ => none

theorem Receipt.result?_answer (served : Served) (receipt : Receipt) :
    (receipt.answer served).result? =
      receipt.ticket?.map fun ticket => Response.result (responseIn served ticket) := by
  cases receipt <;> rfl

namespace Session

variable {engine : Engine} {templates : List TemplateFile} {attempts : List (Option String)}
  {w : Option Worker} {all : List Request} {left : Session} {l : Ledger} {k i : Nat}
  {answers : List Answer} {steps steps' : List Step}

/-- **Where a schedule leaves a client whose worker stops at one of all requests**: the requests
that were taken, the answers and the session, with the client's ledger and what comes of the requests up
to that one. -/
structure Stops (engine : Engine) (all : List Request) (k : Nat) (served : Served) (l : Ledger)
    (taken : List Request) (answers : List Answer) (left : Session) : Prop where
  /-- The requests are taken in the order of submission, and none behind that one. -/
  in_order : taken = all.take taken.length
  taken_le : taken.length ≤ k + 1
  /-- What was read of the log and what is unread is the log of the requests that were taken. -/
  log : answers.flatMap Answer.events ++ left.queue.unread =
    (served.take taken.length).flatMap (·.1)
  /-- Every ticket is good for the end of its own request: for the response as soon as the worker is
  past it, and otherwise as soon as the worker stopped. -/
  tickets : ∀ name ticket, l.tickets.lookup name = some ticket →
    ∃ handle, left.handles.lookup name = some handle ∧
      ∀ n, ((left.work engine n).receive? handle).map (·.1) =
        if min ticket k < taken.length + n then some (responseIn served ticket) else none
  /-- Once it stopped no request is accepted, and whatever the client does ends without it. -/
  stopped : taken.length = k + 1 →
    (∀ r, left.queue.submit r = (.error .workerTerminated, left.queue)) ∧
    ∀ ts receipts l', l.steps? (ts.map Turn.step) = some (receipts, l') →
      ∃ left', left.turns? engine ts = some ([], receipts.map (Receipt.answer served), left')

/-- The answers of two clients to each of which a request's end is told, tell the same. -/
def EndAlike (steps steps' : List Step) (answers answers' : List Answer) : Prop :=
  ∃ receipts l receipts' l', ({} : Ledger).steps? steps = some (receipts, l) ∧
    ({} : Ledger).steps? steps' = some (receipts', l') ∧
    ∀ i j ticket : Nat, receipts[i]?.bind Receipt.ticket? = some ticket →
      receipts'[j]?.bind Receipt.ticket? = some ticket →
      ∃ result, answers[i]?.bind Answer.result? = some result ∧
        answers'[j]?.bind Answer.result? = some result

/-- **A panic on the request at a place stops the worker and spoils nothing else.** The traces are
those of the requests before that one, and of these and that one. -/
structure FailStop (engine : Engine) (new : Session) (earlier served : Served) (steps : List Step)
    (k : Nat) : Prop where
  /-- The last that happens is the compile that panics. -/
  last : ∃ events, served = earlier ++ [(events ++ [.compile Compiler.mainPath], none)]
  /-- Every request before it is sent the response that it would be sent without it. -/
  before : ∀ i < k, ∃ r response, (submissions steps)[i]? = some r ∧ response.id = r.id ∧
    sentIn earlier i = some response ∧ sentIn served i = some response
  /-- It and every request behind it are sent none. -/
  behind : ∀ i, k ≤ i → responseIn served i = .error .workerTerminated
  /-- At any pace, the answers are those of the ledger, and the worker stops at that request. -/
  paced : ∀ ts taken answers left, ts.map Turn.step = steps →
    new.turns? engine ts = some (taken, answers, left) →
    ∃ receipts l, ({} : Ledger).steps? steps = some (receipts, l) ∧
      answers = receipts.map (Receipt.answer served) ∧
      Stops engine (submissions steps) k served l taken answers left
  /-- No step waits for ever, and no drop: the worker only has to get far enough. -/
  progress : ∀ ts, ts.map Turn.step = steps →
    (∀ t ∈ ts, (submissions steps).length ≤ t.during) →
    (({} : Ledger).steps? steps).isSome → (new.turns? engine ts).isSome
  /-- The answers of a session, with that to the drop in the end, are those of the ledger. -/
  session : new.run? engine steps = (({} : Ledger).steps? steps).map fun run =>
    (run.1 ++ run.2.final).map (Receipt.answer served)
  /-- What a session reports is the log of the requests up to that one. -/
  log : ∀ answers, new.run? engine steps = some answers →
    answers.flatMap Answer.events = served.flatMap (·.1)
  /-- The requests before it end as for any client, at any pace, that submits only them. -/
  unsubmitted : ∀ ts ts' taken taken' answers answers' left left', ts.map Turn.step = steps →
    submissions (ts'.map Turn.step) = (submissions steps).take k →
    new.turns? engine ts = some (taken, answers, left) →
    new.turns? engine ts' = some (taken', answers', left') →
    EndAlike steps (ts'.map Turn.step) answers answers'
  unsubmitted_session : ∀ steps' answers answers',
    submissions steps' = (submissions steps).take k →
    new.run? engine steps = some answers → new.run? engine steps' = some answers' →
    EndAlike steps steps' answers answers'

/-! ## The worker stops -/

theorem Reaches.le_of_panicsAt (h : left.Reaches engine w all l i)
    (hp : Worker.PanicsAt engine w all k) : i ≤ k + 1 := by
  cases i with
  | zero => exact Nat.zero_le _
  | succ i => exact Nat.succ_le_succ (hp.survives_take_iff.1 (h.lived (Nat.lt_succ_self i)))

theorem Reaches.stops (h : left.Reaches engine w all l i) (hp : Worker.PanicsAt engine w all k)
    (hl : l.Sound) (hsubmitted : l.submitted = all.length)
    (hevents : answers.flatMap Answer.events =
      eventsIn (Worker.trace engine w all) 0 l.reported) :
    Stops engine all k (Worker.trace engine w (all.take (k + 1))) l (all.take i) answers left := by
  have hi := h.le_of_panicsAt hp
  have hlt := hp.lt
  have hlen : (all.take i).length = i := List.length_take_of_le (by omega)
  refine ⟨by rw [hlen], by rw [hlen]; exact hi, ?_, fun name ticket hticket => ?_, fun heq => ?_⟩
  · rw [hlen, hevents, h.log hl, ← Worker.take_trace, List.take_take, Nat.min_eq_left hi]
    rfl
  · obtain ⟨htlt, handle, hlookup, -⟩ := h.ticket hticket
    refine ⟨handle, hlookup, fun n => ?_⟩
    obtain ⟨i', hle, hle', hwork, -, hmin⟩ := h.work n
    obtain ⟨-, handle', hlookup', hreceive⟩ := hwork.ticket hticket
    obtain rfl : handle' = handle := Option.some.inj (hlookup'.symm.trans hlookup)
    have hi' := hwork.le_of_panicsAt hp
    rw [hp.survives_take_iff] at hmin
    -- A ticket before `k` needs a worker past its request, any other one that stopped at `k`.
    have hiff : (i' ≤ k → ticket < i') ↔ min ticket k < i + n := by omega
    rw [hreceive, hlen, hp.trace_eq, responseIn_append_silent]
    simp only [hp.survives_take_iff, hiff]
  · rw [hlen] at heq
    cases h with
    | alive _ lives => exact absurd (hp.survives_take_iff.1 lives) (by omega)
    | dead ho =>
      refine ⟨ho.queue.submit, fun ts receipts l' hsteps => ?_⟩
      obtain ⟨left', hturns, -⟩ := ho.turns? hsteps
      refine ⟨left', ?_⟩
      rw [hturns, hp.trace_eq, Receipt.answer_append_silent]

theorem endAlike {served served' : Served} (rest rest' : List Receipt)
    {receipts receipts' : List Receipt} {l' : Ledger}
    (hsame : ∀ ticket, responseIn served ticket = responseIn served' ticket)
    (h : ({} : Ledger).steps? steps = some (receipts, l))
    (h' : ({} : Ledger).steps? steps' = some (receipts', l')) :
    EndAlike steps steps' ((receipts ++ rest).map (Receipt.answer served))
      ((receipts' ++ rest').map (Receipt.answer served')) := by
  have htold (served : Served) (receipts rest : List Receipt) (i ticket : Nat)
      (hi : receipts[i]?.bind Receipt.ticket? = some ticket) :
      ((receipts ++ rest).map (Receipt.answer served))[i]?.bind Answer.result? =
        some (Response.result (responseIn served ticket)) := by
    obtain ⟨receipt, hreceipt, hticket⟩ := Option.bind_eq_some_iff.1 hi
    have hlt := (List.getElem?_eq_some_iff.1 hreceipt).1
    rw [List.getElem?_map, List.getElem?_append_left hlt, hreceipt, Option.map_some,
      Option.bind_some, Receipt.result?_answer, hticket, Option.map_some]
  refine ⟨receipts, l, receipts', l', h, h', fun i j ticket hi hj => ⟨_, htold _ _ _ _ _ hi, ?_⟩⟩
  rw [htold _ _ _ _ _ hj, hsame]

/-- **A panic is fail-stop**, for every client, every list of templates and every outcome of
creating compilers. -/
theorem panic_is_fail_stop (engine : Engine) (templates : List TemplateFile)
    (attempts : List (Option String)) (steps : List Step) (k : Nat)
    (hp : Worker.PanicsAt engine (some { templates, attempts }) (submissions steps) k) :
    FailStop engine (start templates attempts)
      (Worker.trace engine (some { templates, attempts }) ((submissions steps).take k))
      (Worker.trace engine (some { templates, attempts }) ((submissions steps).take (k + 1)))
      steps k := by
  have hstart := reaches_start engine templates attempts (submissions steps)
  have hsession := hstart.run? Ledger.sound_empty rfl
  refine ⟨hp.trace_take_succ, fun i hi => ?_, fun i => responseIn_of_panicsAt_le hp, ?_, ?_, ?_, ?_,
    ?_, ?_⟩
  · have hr := List.getElem?_eq_getElem (Nat.lt_trans hi hp.lt)
    obtain ⟨response, hresponse, hid⟩ := Queue.exists_sentIn_of_survives (hp.survives.take (i + 1))
      ((List.getElem?_take_of_lt hi).trans hr)
    exact ⟨_, response, hr, hid, hresponse, (sentIn_of_panicsAt hp i).trans hresponse⟩
  · rintro ts taken answers left rfl hturns
    obtain ⟨receipts, l, i, hsteps, rfl, rfl, hleft⟩ := reaches_of_turns? rfl hturns
    obtain ⟨hsound, hsubmitted, -, hevents⟩ := Ledger.steps?_counts _ Ledger.sound_empty hsteps
    refine ⟨receipts, l, hsteps, by rw [answer_of_panicsAt hp], hleft.stops hp hsound ?_ ?_⟩
    · rw [hsubmitted, Nat.zero_add]
    · rw [List.flatMap_map]
      exact hevents
  · rintro ts rfl hduring hsome
    obtain ⟨⟨receipts, l⟩, hsteps⟩ := Option.isSome_iff_exists.1 hsome
    rcases hstart.turns? Ledger.sound_empty rfl hsteps with ⟨_, _, -, hturns, -⟩ | ⟨-, t, ht, hlt⟩
    · rw [hturns]
      rfl
    · exact absurd (hduring t ht) (Nat.not_le.2 hlt)
  · rw [← answer_of_panicsAt hp]
    exact hsession
  · intro answers hanswers
    rw [hsession] at hanswers
    obtain ⟨⟨receipts, l⟩, hsteps, rfl⟩ := Option.map_eq_some_iff.1 hanswers
    rw [Ledger.flatMap_events_final hsteps Worker.length_trace, log_of_panicsAt hp]
  · rintro ts ts' taken taken' answers answers' left left' rfl hsub hturns hturns'
    obtain ⟨receipts, l, i, hsteps, rfl, -, -⟩ := reaches_of_turns? rfl hturns
    obtain ⟨receipts', l', i', hsteps', rfl, -, -⟩ := reaches_of_turns? hsub hturns'
    have halike := endAlike [] [] (responseIn_of_panicsAt hp) hsteps hsteps'
    rw [answer_of_panicsAt hp]
    simpa only [List.append_nil] using halike
  · intro steps' answers answers' hsub hanswers hanswers'
    have hsession' := (reaches_start engine templates attempts _).run? Ledger.sound_empty hsub.symm
    rw [hsession] at hanswers
    rw [hsession'] at hanswers'
    obtain ⟨⟨receipts, l⟩, hsteps, rfl⟩ := Option.map_eq_some_iff.1 hanswers
    obtain ⟨⟨receipts', l'⟩, hsteps', rfl⟩ := Option.map_eq_some_iff.1 hanswers'
    rw [answer_of_panicsAt hp]
    exact endAlike _ _ (responseIn_of_panicsAt hp) hsteps hsteps'

/-- The first of these documents finds no compiler, and it is the third that panics. -/
def breakdown : List Step :=
  [.submit "a" "panic:" ∅, .submit "b" "x" ∅, .submit "c" "panic:" ∅, .submit "d" "y" ∅, .wait "d",
    .wait "b", .drop, .wait "c", .wait "a"]

theorem panic_is_fail_stop_breakdown :
    Worker.PanicsAt scripted (some { templates := [], attempts := [some "no fonts"] })
      (submissions breakdown) 2 ∧
    (({} : Ledger).steps? breakdown).isSome ∧
    FailStop scripted (start [] [some "no fonts"])
      (Worker.trace scripted (some { templates := [], attempts := [some "no fonts"] })
        ((submissions breakdown).take 2))
      (Worker.trace scripted (some { templates := [], attempts := [some "no fonts"] })
        ((submissions breakdown).take 3)) breakdown 2 := by
  have hp : Worker.PanicsAt scripted (some { templates := [], attempts := [some "no fonts"] })
      (submissions breakdown) 2 := by decide +kernel
  exact ⟨hp, by decide +kernel, panic_is_fail_stop scripted [] [some "no fonts"] breakdown 2 hp⟩

end Session

end Typeset.Compile
