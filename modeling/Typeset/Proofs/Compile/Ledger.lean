/-
What a client is owed.

A ledger counts the requests of a client and knows, by name, which of them it
holds a handle for. It knows of no queue, no mailbox and no worker. What a step
is answered with is a receipt in terms of these counts, and becomes an answer
with the trace of all requests, served one after another.
-/
import Typeset.Compile.Session
import Typeset.Proofs.Compile.Trace

namespace Typeset.Compile

/-! ## Steps -/

/-- The request that a step puts in line. -/
def Step.submission? : Step → Option Request
  | .compile main assets id | .submit _ main assets id => some { id, main, assets }
  | .request r | .submitRequest _ r => some r
  | .wait _ | .forget _ | .drop => none

/-- The requests of a client, in the order in which it submits them. -/
def submissions (steps : List Step) : List Request := steps.filterMap Step.submission?

theorem submissions_append (steps steps' : List Step) :
    submissions (steps ++ steps') = submissions steps ++ submissions steps' :=
  List.filterMap_append

theorem submissions_cons (step : Step) (steps : List Step) :
    submissions (step :: steps) = step.submission?.toList ++ submissions steps := by
  rw [submissions, List.filterMap_cons]
  cases step.submission? <;> rfl

theorem getElem?_submissions {before behind : List Step} {step : Step} {r : Request}
    (hr : step.submission? = some r) :
    (submissions (before ++ step :: behind))[(submissions before).length]? = some r := by
  rw [submissions_append, submissions_cons, hr, List.getElem?_append_right (Nat.le_refl _),
    Nat.sub_self]
  rfl

/-- Whether a step only takes out of a mailbox or gives a handle up. -/
def Step.isHandling : Step → Bool
  | .wait _ | .forget _ => true
  | _ => false

theorem submissions_filter (steps : List Step) :
    submissions (steps.filter (!·.isHandling)) = submissions steps := by
  unfold submissions
  rw [List.filterMap_filter]
  congr 1
  funext step
  cases step <;> rfl

def Answer.isHandling : Answer → Bool
  | .waited _ | .forgotten => true
  | _ => false

/-- The events that an answer reports. -/
def Answer.events : Answer → List Event
  | .compiled _ events | .responded _ events | .dropped events => events
  | .submitted | .submittedAs _ | .waited _ | .forgotten => []

/-- Waiting and forgetting report nothing. -/
theorem Answer.events_of_isHandling {a : Answer} (h : a.isHandling) : a.events = [] := by
  cases a with
  | waited | forgotten => rfl
  | _ => cases h

theorem flatMap_events_filter (answers : List Answer) :
    (answers.filter (!·.isHandling)).flatMap Answer.events = answers.flatMap Answer.events := by
  induction answers with
  | nil => rfl
  | cons a answers ih =>
    cases ha : a.isHandling with
    | true =>
      rw [List.filter_cons_of_neg (by simp [ha]), ih, List.flatMap_cons,
        Answer.events_of_isHandling ha, List.nil_append]
    | false =>
      rw [List.filter_cons_of_pos (by simp [ha]), List.flatMap_cons, List.flatMap_cons, ih]

/-! ## Receipts -/

/-- What a step is answered with. A ticket is the number of requests before one, and `since` the
number of those whose events were reported before. -/
inductive Receipt where
  | compiled (ticket since : Nat)
  | responded (ticket since : Nat)
  | submitted
  | submittedAs (id : String)
  | waited (ticket : Nat)
  | forgotten
  | dropped (since upto : Nat)

/-- The response that is sent to a request, in a trace of all of them. -/
def sentIn (served : Served) (ticket : Nat) : Option Response :=
  served[ticket]?.bind (·.2)

/-- What a client receives for a request, in a trace of all of them. -/
def responseIn (served : Served) (ticket : Nat) :
    Except Error Response :=
  match sentIn served ticket with
  | some response => .ok response
  | none => .error .workerTerminated

/-- The events of the requests from one to another, in a trace of all of them. -/
def eventsIn (served : Served) (since upto : Nat) : List Event :=
  ((served.take upto).drop since).flatMap (·.1)

namespace Receipt

def isHandling : Receipt → Bool
  | waited _ | forgotten => true
  | _ => false

/-- The answer that a receipt stands for. -/
def answer (served : Served) : Receipt → Answer
  | compiled ticket since =>
    .compiled (Response.result (responseIn served ticket)) (eventsIn served since (ticket + 1))
  | responded ticket since =>
    .responded (responseIn served ticket) (eventsIn served since (ticket + 1))
  | submitted => .submitted
  | submittedAs id => .submittedAs id
  | waited ticket => .waited (Response.result (responseIn served ticket))
  | forgotten => .forgotten
  | dropped since upto => .dropped (eventsIn served since upto)

@[simp] theorem isHandling_answer (served : Served) (r : Receipt) :
    (r.answer served).isHandling = r.isHandling := by
  cases r <;> rfl

end Receipt

section Segments

variable {served : Served} {a b c : Nat}

@[simp] theorem eventsIn_self : eventsIn served a a = [] := by
  unfold eventsIn
  rw [List.drop_eq_nil_of_le (List.length_take_le ..)]
  rfl

theorem drop_take_append {α : Type} (xs : List α) (hab : a ≤ b) (hbc : b ≤ c) :
    (xs.take b).drop a ++ (xs.take c).drop b = (xs.take c).drop a := by
  have hb : xs.take b = (xs.take c).take b := by rw [List.take_take, Nat.min_eq_left hbc]
  have hdrop : (xs.take c).drop b = ((xs.take c).drop a).drop (b - a) := by
    rw [List.drop_drop, Nat.add_sub_cancel' hab]
  rw [hb, List.drop_take, hdrop, List.take_append_drop]

theorem eventsIn_append (hab : a ≤ b) (hbc : b ≤ c) :
    eventsIn served a b ++ eventsIn served b c = eventsIn served a c := by
  unfold eventsIn
  rw [← List.flatMap_append, drop_take_append served hab hbc]

theorem eventsIn_succ {events : List Event} {response : Option Response}
    (h : served[a]? = some (events, response)) : eventsIn served a (a + 1) = events := by
  obtain ⟨ha, hget⟩ := List.getElem?_eq_some_iff.1 h
  rw [eventsIn, List.drop_take, List.drop_eq_getElem_cons ha, hget, Nat.add_sub_cancel_left]
  simp

/-- The segments of all requests are the whole log. -/
theorem eventsIn_all (h : served.length ≤ a) : eventsIn served 0 a = served.flatMap (·.1) := by
  rw [eventsIn, List.take_of_length_le h, List.drop_zero]

end Segments

/-! ## Ledgers -/

/-- The counts of a client, and the tickets it holds by name. -/
structure Ledger where
  submitted : Nat := 0
  reported : Nat := 0
  tickets : List (String × Nat) := []
  isOpen : Bool := true

namespace Ledger

variable {l l' m : Ledger} {step : Step} {steps : List Step} {receipt : Receipt}
  {receipts : List Receipt}

/-- Gives up what stands under a name. -/
def release (l : Ledger) (name : String) : Ledger :=
  { l with tickets := l.tickets.filter (·.1 != name) }

/-- One more request, and nothing kept of it. -/
def count (l : Ledger) : Ledger := { l with submitted := l.submitted + 1 }

/-- One more request, with its ticket under a name. -/
def keep (l : Ledger) (name : String) : Ledger :=
  { (l.release name).count with tickets := (name, l.submitted) :: (l.release name).tickets }

/-- Everything that was submitted is reported. -/
def report (l : Ledger) : Ledger := { l with reported := l.submitted }

/-- Enters a step, if the client may take it. -/
def step? (l : Ledger) : Step → Option (Receipt × Ledger)
  | .compile _ _ _ =>
    if l.isOpen then some (.compiled l.submitted l.reported, l.count.report) else none
  | .request _ =>
    if l.isOpen then some (.responded l.submitted l.reported, l.count.report) else none
  | .submit name _ _ _ => if l.isOpen then some (.submitted, l.keep name) else none
  | .submitRequest name r => if l.isOpen then some (.submittedAs r.id, l.keep name) else none
  | .wait name => (l.tickets.lookup name).map fun ticket => (.waited ticket, l.release name)
  | .forget name =>
    if (l.tickets.lookup name).isSome then some (.forgotten, l.release name) else none
  | .drop =>
    if l.isOpen then
      some (.dropped l.reported l.submitted, { l.report with isOpen := false })
    else none

/-- Enters steps, to the last one. -/
def steps? (l : Ledger) : List Step → Option (List Receipt × Ledger)
  | [] => some ([], l)
  | step :: steps => do
    let (receipt, l) ← l.step? step
    let (receipts, l) ← steps? l steps
    return (receipt :: receipts, l)

/-- The receipt for dropping the queue in the end, if no step did. -/
def final (l : Ledger) : List Receipt :=
  if l.isOpen then [.dropped l.reported l.submitted] else []

/-- What a step can do to a ledger. -/
inductive Enters (l : Ledger) : Step → Receipt → Ledger → Prop
  | compile {main id : String} {assets : Assets} : l.isOpen →
      Enters l (.compile main assets id) (.compiled l.submitted l.reported) l.count.report
  | request {r : Request} : l.isOpen →
      Enters l (.request r) (.responded l.submitted l.reported) l.count.report
  | submit {name main id : String} {assets : Assets} : l.isOpen →
      Enters l (.submit name main assets id) .submitted (l.keep name)
  | submitRequest {name : String} {r : Request} : l.isOpen →
      Enters l (.submitRequest name r) (.submittedAs r.id) (l.keep name)
  | wait {name : String} {ticket : Nat} : l.tickets.lookup name = some ticket →
      Enters l (.wait name) (.waited ticket) (l.release name)
  | forget {name : String} : (l.tickets.lookup name).isSome →
      Enters l (.forget name) .forgotten (l.release name)
  | drop : l.isOpen →
      Enters l .drop (.dropped l.reported l.submitted) { l.report with isOpen := false }

theorem enters (h : l.step? step = some (receipt, l')) : l.Enters step receipt l' := by
  cases step with
  | wait name =>
    obtain ⟨ticket, hlookup, hr⟩ := Option.map_eq_some_iff.1 h
    obtain ⟨rfl, rfl⟩ := Prod.mk.inj hr
    exact .wait hlookup
  | _ =>
    obtain ⟨hallowed, hr⟩ := Option.ite_none_right_eq_some.1 h
    obtain ⟨rfl, rfl⟩ := Prod.mk.inj (Option.some.inj hr)
    constructor
    exact hallowed

theorem steps?_cons_of_some (h : l.step? step = some (receipt, m)) :
    l.steps? (step :: steps) = (m.steps? steps).map fun run => (receipt :: run.1, run.2) := by
  simp only [steps?, h, Option.bind_eq_bind, Option.bind_some]
  cases m.steps? steps <;> rfl

theorem steps?_cons : l.steps? (step :: steps) = some (receipts, l') ↔
    ∃ receipt m rest, l.step? step = some (receipt, m) ∧ m.steps? steps = some (rest, l') ∧
      receipts = receipt :: rest := by
  simp only [steps?, Option.bind_eq_bind, Option.bind_eq_some_iff, Option.pure_def,
    Option.some.injEq, Prod.mk.injEq, Prod.exists]
  constructor
  · rintro ⟨receipt, m, hstep, rest, _, hrest, rfl, rfl⟩
    exact ⟨receipt, m, rest, hstep, hrest, rfl⟩
  · rintro ⟨receipt, m, rest, hstep, hrest, rfl⟩
    exact ⟨receipt, m, hstep, rest, l', hrest, rfl, rfl⟩

/-! ## Waiting and forgetting -/

/-- Ledgers that differ in the tickets alone. -/
structure Agrees (l m : Ledger) : Prop where
  submitted : l.submitted = m.submitted
  reported : l.reported = m.reported
  isOpen : l.isOpen = m.isOpen

theorem step?_handling (h : l.step? step = some (receipt, l')) (hs : step.isHandling) :
    receipt.isHandling ∧ l'.Agrees l := by
  cases enters h with
  | wait | forget => exact ⟨rfl, rfl, rfl, rfl⟩
  | _ => cases hs

/-- Any other step looks at no ticket. -/
theorem step?_of_agrees (h : l.step? step = some (receipt, l')) (hs : step.isHandling = false)
    (hm : l.Agrees m) :
    receipt.isHandling = false ∧ ∃ m', m.step? step = some (receipt, m') ∧ l'.Agrees m' := by
  obtain ⟨submitted, reported, _, isOpen⟩ := l
  obtain ⟨_, _, _, _⟩ := m
  obtain ⟨rfl, rfl, rfl⟩ := hm
  cases enters h with
  | wait | forget => cases hs
  | compile hopen | request hopen | submit hopen | submitRequest hopen | drop hopen =>
    exact ⟨rfl, _, if_pos hopen, rfl, rfl, rfl⟩

/-- **Waiting and forgetting change no other receipt.** Without them the other steps are entered
just the same. -/
theorem steps?_filter (h : l.steps? steps = some (receipts, l')) (hm : l.Agrees m) :
    ∃ m', m.steps? (steps.filter (!·.isHandling)) =
      some (receipts.filter (!·.isHandling), m') ∧ l'.Agrees m' := by
  induction steps generalizing l m receipts with
  | nil =>
    obtain ⟨rfl, rfl⟩ := Prod.mk.inj (Option.some.inj h)
    exact ⟨m, rfl, hm⟩
  | cons step steps ih =>
    obtain ⟨receipt, l₁, rest, hstep, hrest, rfl⟩ := steps?_cons.1 h
    cases hs : step.isHandling with
    | true =>
      obtain ⟨hr, h₁⟩ := step?_handling hstep hs
      rw [List.filter_cons_of_neg (by simp [hs]), List.filter_cons_of_neg (by simp [hr])]
      exact ih hrest ⟨h₁.submitted.trans hm.submitted, h₁.reported.trans hm.reported,
        h₁.isOpen.trans hm.isOpen⟩
    | false =>
      obtain ⟨hr, m₁, hm₁, hag⟩ := step?_of_agrees hstep hs hm
      obtain ⟨m', hm', hag'⟩ := ih hrest hag
      rw [List.filter_cons_of_pos (by simp [hs]), List.filter_cons_of_pos (by simp [hr])]
      exact ⟨m', steps?_cons.2 ⟨receipt, m₁, _, hm₁, hm', rfl⟩, hag'⟩

theorem Agrees.final (h : l.Agrees m) : l.final = m.final := by
  rw [Ledger.final, Ledger.final, h.isOpen, h.reported, h.submitted]

/-- Clients that differ in waiting and forgetting alone have the same other receipts. -/
theorem steps?_undisturbed {steps' : List Step} {receipts' : List Receipt} {m' : Ledger}
    (hsteps : steps'.filter (!·.isHandling) = steps.filter (!·.isHandling))
    (h : l.steps? steps = some (receipts, m)) (h' : l.steps? steps' = some (receipts', m')) :
    receipts'.filter (!·.isHandling) = receipts.filter (!·.isHandling) ∧ m'.final = m.final := by
  obtain ⟨n, hn, hm⟩ := steps?_filter h ⟨rfl, rfl, rfl⟩
  obtain ⟨n', hn', hm'⟩ := steps?_filter h' ⟨rfl, rfl, rfl⟩
  rw [hsteps, hn, Option.some.injEq, Prod.mk.injEq] at hn'
  obtain ⟨hreceipts, rfl⟩ := hn'
  exact ⟨hreceipts.symm, hm'.final.trans hm.final.symm⟩

/-! ## What is reported -/

/-- A ledger that reports no more than was submitted, and everything once it is closed. -/
structure Sound (l : Ledger) : Prop where
  reported_le : l.reported ≤ l.submitted
  closed : l.isOpen = false → l.reported = l.submitted

theorem sound_empty : ({} : Ledger).Sound := ⟨Nat.le_refl 0, fun _ => rfl⟩

theorem Sound.step? (hl : l.Sound) (h : l.step? step = some (receipt, l')) : l'.Sound := by
  obtain ⟨hle, hclosed⟩ := hl
  cases enters h with
  | wait | forget => exact ⟨hle, hclosed⟩
  | submit hopen | submitRequest hopen =>
    exact ⟨Nat.le_succ_of_le hle, fun hc => absurd (hopen.symm.trans hc) (by simp)⟩
  | compile | request | drop => exact ⟨Nat.le_refl _, fun _ => rfl⟩

theorem step?_counts (served : Served) (hl : l.Sound) (h : l.step? step = some (receipt, l')) :
    l'.submitted = l.submitted + step.submission?.toList.length ∧ l.reported ≤ l'.reported ∧
      (receipt.answer served).events = eventsIn served l.reported l'.reported := by
  have hle := hl.reported_le
  cases enters h with
  | wait | forget | submit | submitRequest => exact ⟨rfl, Nat.le_refl _, eventsIn_self.symm⟩
  | compile | request => exact ⟨rfl, Nat.le_succ_of_le hle, rfl⟩
  | drop => exact ⟨rfl, hle, rfl⟩

/-- **The segments add up**: what the answers to steps report is the log from the first of them on
to the last. -/
theorem steps?_counts (served : Served) (hl : l.Sound)
    (h : l.steps? steps = some (receipts, l')) :
    l'.Sound ∧ l'.submitted = l.submitted + (submissions steps).length ∧
      l.reported ≤ l'.reported ∧
      receipts.flatMap (fun r => (r.answer served).events) =
        eventsIn served l.reported l'.reported := by
  induction steps generalizing l receipts with
  | nil =>
    obtain ⟨rfl, rfl⟩ := Prod.mk.inj (Option.some.inj h)
    exact ⟨hl, rfl, Nat.le_refl _, eventsIn_self.symm⟩
  | cons step steps ih =>
    obtain ⟨receipt, l₁, rest, hstep, hrest, rfl⟩ := steps?_cons.1 h
    obtain ⟨hsubmitted, hle, hevents⟩ := step?_counts served hl hstep
    obtain ⟨hl', hsubmitted', hle', hevents'⟩ := ih (hl.step? hstep) hrest
    refine ⟨hl', ?_, Nat.le_trans hle hle', ?_⟩
    · rw [hsubmitted', hsubmitted, submissions_cons, List.length_append, Nat.add_assoc]
    · rw [List.flatMap_cons, hevents, hevents', eventsIn_append hle hle']

theorem Sound.final (served : Served) (hl : l.Sound) :
    l.final.flatMap (fun r => (r.answer served).events) =
      eventsIn served l.reported l.submitted := by
  unfold Ledger.final
  by_cases hopen : l.isOpen
  · rw [if_pos hopen, List.flatMap_singleton]
    rfl
  · rw [if_neg hopen, hl.closed (by simpa using hopen), eventsIn_self]
    rfl

/-- **From a new queue to its end, what is reported is the whole log.** -/
theorem flatMap_events_final {served : Served} (h : ({} : Ledger).steps? steps = some (receipts, l))
    (hserved : served.length = (submissions steps).length) :
    ((receipts ++ l.final).map (Receipt.answer served)).flatMap Answer.events =
      served.flatMap (·.1) := by
  obtain ⟨hsound, hsubmitted, -, hevents⟩ := steps?_counts served sound_empty h
  rw [Nat.zero_add, ← hserved] at hsubmitted
  rw [List.flatMap_map, List.flatMap_append, hevents, hsound.final,
    eventsIn_append (Nat.zero_le _) hsound.reported_le]
  exact eventsIn_all (Nat.le_of_eq hsubmitted.symm)

end Ledger

end Typeset.Compile
