/-
A queue whose worker died.

When the compiler panics, nothing stays in line and nothing is accepted any
more. What was sent before lies in its mailbox, and who waits for anything else
is told at once. So a client takes every step without the worker, and is
answered as the ledger says: in the trace of all requests, a dead worker serves
them with no event and no response.
-/
import Typeset.Proofs.Compile.Delivery

namespace Typeset.Compile

variable {engine : Engine} {w : Option Worker} {all : List Request} {q : Queue} {s : Session}
  {l l' : Ledger} {r : Request} {n k a b ticket reported : Nat} {name : String}

/-! ## What a dead worker serves -/

theorem mem_drop_trace (h : Worker.after engine w (all.take k) = none) (hk : k ≤ a)
    {e : List Event × Option Response} (he : e ∈ (Worker.trace engine w all).drop a) :
    e = ([], none) := by
  rw [← Nat.add_sub_cancel' hk, ← List.drop_drop, Worker.drop_trace, h, Worker.trace_none] at he
  exact (List.mem_replicate.1 (List.mem_of_mem_drop he)).2

/-- A request that comes to a dead worker is sent nothing. -/
theorem sentIn_of_died (h : Worker.after engine w (all.take k) = none) (hk : k ≤ ticket) :
    sentIn (Worker.trace engine w all) ticket = none := by
  rw [sentIn]
  cases he : (Worker.trace engine w all)[ticket]? with
  | none => rfl
  | some e =>
    have hmem : e ∈ (Worker.trace engine w all).drop ticket := by
      rw [← Nat.add_zero ticket, ← List.getElem?_drop] at he
      exact List.mem_of_getElem? he
    rw [mem_drop_trace h hk hmem]
    rfl

theorem responseIn_of_died (h : Worker.after engine w (all.take k) = none) (hk : k ≤ ticket) :
    responseIn (Worker.trace engine w all) ticket = .error .workerTerminated := by
  rw [responseIn, sentIn_of_died h hk]

theorem eventsIn_of_died (h : Worker.after engine w (all.take k) = none) (hk : k ≤ a)
    (hab : a ≤ b) (hreported : reported ≤ a) :
    eventsIn (Worker.trace engine w all) reported b =
      eventsIn (Worker.trace engine w all) reported a := by
  have hnil : eventsIn (Worker.trace engine w all) a b = [] := by
    refine List.flatMap_eq_nil_iff.2 fun e he => ?_
    rw [List.drop_take] at he
    rw [mem_drop_trace h hk (List.mem_of_mem_take he)]
  rw [← eventsIn_append hreported hab, hnil, List.append_nil]

namespace Queue

/-! ## The queue -/

/-- A queue whose worker took the first `k` of all requests and died of the last of them, whose
client submitted `submitted` requests, some of them too late, and read the events of the first
`reported`. -/
structure Fell (engine : Engine) (w : Option Worker) (all : List Request) (q : Queue)
    (submitted k reported : Nat) : Prop where
  died : Worker.after engine w (all.take k) = none
  worker : q.worker = none
  jobs : q.jobs = []
  taken_le : k ≤ q.accepted
  accepted_le : q.accepted ≤ submitted
  reported_le : reported ≤ submitted
  mailboxes : ∀ m ∈ q.mailboxes, m.2 = sentIn (Worker.trace engine w all) m.1
  unread : q.unread = eventsIn (Worker.trace engine w all) reported submitted

/-- The worker takes the next request in line, and dies of it. -/
theorem Serves.fall (h : q.Serves engine w all n k reported)
    (hlive : Worker.Survives engine w (all.take k))
    (hdied : Worker.after engine w (all.take (k + 1)) = none) (hk : k < n) :
    (q.advance engine).Fell engine w all n (k + 1) reported ∧
      (q.advance engine).accepted = n ∧ q.upcoming = all[k]? := by
  obtain ⟨r, hr⟩ : ∃ r, all[k]? = some r :=
    ⟨_, List.getElem?_eq_getElem (Nat.lt_of_lt_of_le hk h.accepted_le)⟩
  obtain ⟨worker, hworker⟩ := Option.isSome_iff_exists.1 hlive
  have hp : (worker.process engine r).2 = none := by
    rw [Worker.after_take_succ hr, hworker] at hdied
    simpa [Worker.next] using hdied
  have htrace : (Worker.trace engine w all)[k]? = some ((worker.process engine r).1, none) := by
    rw [Worker.getElem?_trace, hr, Option.map_some, hworker, Worker.outcome, hp, Option.map_none]
  have hqworker := h.worker.trans hworker
  have hjobs := h.jobs
  rw [lined_cons hk hr] at hjobs
  have hadvance : q.advance engine = { q with
      worker := none
      jobs := []
      unread := q.unread ++ (worker.process engine r).1 } := by
    rw [Queue.advance, hqworker, hjobs]
    simp only [hp]
  refine ⟨?_, by rw [hadvance]; exact h.accepted, by rw [upcoming, hqworker, hjobs, hr]; rfl⟩
  rw [hadvance]
  refine ⟨hdied, rfl, rfl, ?_, Nat.le_of_eq h.accepted, ?_, fun m hm => ?_, ?_⟩
  · exact Nat.le_trans hk (Nat.le_of_eq h.accepted.symm)
  · exact Nat.le_trans h.reported_le h.taken_le
  · rw [(h.mailboxes m hm).2]
    by_cases hlt : m.1 < k
    · rw [if_pos hlt]
    · rw [if_neg hlt]
      rcases Nat.eq_or_lt_of_le (Nat.not_lt.1 hlt) with heq | hgt
      · rw [← heq, sentIn, htrace]
        rfl
      · rw [sentIn_of_died hdied hgt]
  · have hreported := Nat.le_succ_of_le h.reported_le
    rw [eventsIn_of_died hdied (Nat.le_refl _) hk hreported,
      ← eventsIn_append h.reported_le (Nat.le_succ k), eventsIn_succ htrace, ← h.unread]

theorem Fell.advance (h : q.Fell engine w all n k reported) : q.advance engine = q :=
  advance_of_worker_none h.worker

theorem Fell.submit (h : q.Fell engine w all n k reported) (r : Request) :
    q.submit r = (.error .workerTerminated, q) := by
  simp [Queue.submit, h.worker]

theorem Fell.count (h : q.Fell engine w all n k reported) :
    q.Fell engine w all (n + 1) k reported := by
  refine { h with
    accepted_le := Nat.le_succ_of_le h.accepted_le
    reported_le := Nat.le_succ_of_le h.reported_le
    unread := ?_ }
  have hk := Nat.le_trans h.taken_le h.accepted_le
  rw [h.unread, eventsIn_of_died h.died hk (Nat.le_succ n) h.reported_le]

theorem Fell.forget (h : q.Fell engine w all n k reported) (handle : Handle) :
    (q.forget handle).Fell engine w all n k reported :=
  { h with mailboxes := fun m hm => h.mailboxes m (List.mem_filter.1 hm).1 }

theorem Fell.close (h : q.Fell engine w all n k reported) :
    Fell engine w all { q with isOpen := false } n k reported :=
  { h with }

theorem Fell.readEvents (h : q.Fell engine w all n k reported) :
    q.readEvents.1 = eventsIn (Worker.trace engine w all) reported n ∧
      q.readEvents.2.Fell engine w all n k n :=
  ⟨h.unread, { h with reported_le := Nat.le_refl n, unread := eventsIn_self.symm }⟩

/-- **A held handle receives what was sent to it**, and otherwise that the worker is gone. -/
theorem Fell.receive? (h : q.Fell engine w all n k reported) {handle : Handle}
    (hheld : handle.ticket ∈ q.mailboxes.map (·.1)) :
    q.receive? handle =
      some (responseIn (Worker.trace engine w all) handle.ticket, q.forget handle) := by
  obtain ⟨sent, hlookup, hmem⟩ := exists_mailbox hheld
  have hsent : sent = sentIn (Worker.trace engine w all) handle.ticket := h.mailboxes _ hmem
  unfold Queue.receive?
  rw [hlookup, hsent, responseIn]
  cases sentIn (Worker.trace engine w all) handle.ticket with
  | some response => rfl
  | none => simp [h.worker]

end Queue

/-! ## The client -/

/-- What a client was given for a ticket, where `accepted` requests were accepted. -/
def claimFor (all : List Request) (accepted ticket : Nat) : Except Error Handle :=
  if ticket < accepted then .ok (handleFor all ticket) else .error .workerTerminated

namespace Session

variable {step : Step} {receipt : Receipt} {answer : Answer} {pending : Pending} {handle : Handle}

/-- A session whose worker died of the last of the first `k` requests, and whose handles, refused
ones included, are the tickets of the ledger. -/
structure Outlives (engine : Engine) (w : Option Worker) (all : List Request) (s : Session)
    (l : Ledger) (k : Nat) : Prop where
  queue : s.queue.Fell engine w all l.submitted k l.reported
  isOpen : s.queue.isOpen = l.isOpen
  handles : s.handles = l.tickets.map fun t => (t.1, claimFor all s.queue.accepted t.2)
  held : ∀ t ∈ l.tickets, t.2 < s.queue.accepted → t.2 ∈ s.queue.mailboxes.map (·.1)
  issued : ∀ t ∈ l.tickets, t.2 < l.submitted
  distinct : (l.tickets.map (·.2)).Nodup

theorem Tracks.fall (h : s.Tracks engine w all l k)
    (hlive : Worker.Survives engine w (all.take k))
    (hdied : Worker.after engine w (all.take (k + 1)) = none) (hk : k < l.submitted) :
    Outlives engine w all { s with queue := s.queue.advance engine } l (k + 1) ∧
      s.queue.upcoming = all[k]? := by
  obtain ⟨hq, haccepted, hupcoming⟩ := h.queue.fall hlive hdied hk
  have hissued : ∀ t ∈ l.tickets, t.2 < l.submitted := fun t ht =>
    (h.queue.lookup (h.held t ht)).1
  refine ⟨⟨hq, ?_, ?_, fun t ht _ => ?_, hissued, h.distinct⟩, hupcoming⟩
  · exact (Queue.isOpen_advance engine s.queue).trans h.isOpen
  · rw [h.handles]
    refine List.map_congr_left fun t ht => ?_
    rw [claimFor, if_pos (haccepted.symm ▸ hissued t ht)]
  · rw [Queue.map_fst_mailboxes_advance]
    exact h.held t ht

theorem Outlives.lookup (h : s.Outlives engine w all l k) (name : String) :
    s.handles.lookup name = (l.tickets.lookup name).map (claimFor all s.queue.accepted) := by
  rw [h.handles]
  exact lookup_map_snd (claimFor all s.queue.accepted) l.tickets name

/-! ### Handles -/

theorem Outlives.unname (h : s.Outlives engine w all l k) (name : String) :
    Outlives engine w all { s with handles := s.handles.filter (·.1 != name) } (l.release name)
      k := by
  refine ⟨h.queue, h.isOpen, ?_, fun t ht => h.held t (List.mem_filter.1 ht).1,
    fun t ht => h.issued t (List.mem_filter.1 ht).1, nodup_release h.distinct name⟩
  rw [h.handles, List.filter_map]
  rfl

theorem Outlives.forget (h : s.Outlives engine w all l k)
    (hunnamed : ∀ t ∈ l.tickets, t.2 ≠ handle.ticket) :
    Outlives engine w all { s with queue := s.queue.forget handle } l k :=
  ⟨h.queue.forget handle, h.isOpen, h.handles,
    fun t ht hlt => mem_mailboxes_forget (h.held t ht hlt) (hunnamed t ht), h.issued, h.distinct⟩

theorem Outlives.release (h : s.Outlives engine w all l k) (name : String) :
    (s.release name).Outlives engine w all (l.release name) k := by
  unfold Session.release
  rw [h.lookup]
  cases hl : l.tickets.lookup name with
  | none => exact h.unname name
  | some ticket =>
    have hunnamed := ne_of_mem_release h.distinct hl
    rw [Option.map_some, claimFor]
    by_cases hlt : ticket < s.queue.accepted
    · rw [if_pos hlt]
      exact (h.unname name).forget hunnamed
    · rw [if_neg hlt]
      exact h.unname name

/-- What a client holds is received at once. -/
theorem Outlives.receive? (h : s.Outlives engine w all l k)
    (hheld : ticket ∈ s.queue.mailboxes.map (·.1)) :
    ∃ s', s.receive? (.ok (handleFor all ticket)) =
      some (responseIn (Worker.trace engine w all) ticket, s') ∧
      ((∀ t ∈ l.tickets, t.2 ≠ ticket) → s'.Outlives engine w all l k) := by
  have hreceive : s.queue.receive? (handleFor all ticket) =
      some (responseIn (Worker.trace engine w all) ticket,
        s.queue.forget (handleFor all ticket)) := h.queue.receive? hheld
  refine ⟨{ s with queue := s.queue.forget (handleFor all ticket) }, ?_,
    fun hunnamed => h.forget hunnamed⟩
  rw [Session.receive?, hreceive, Option.map_some]

theorem Outlives.receive?_claimFor (h : s.Outlives engine w all l k)
    (hheld : ticket < s.queue.accepted → ticket ∈ s.queue.mailboxes.map (·.1)) :
    ∃ s', s.receive? (claimFor all s.queue.accepted ticket) =
      some (responseIn (Worker.trace engine w all) ticket, s') ∧
      ((∀ t ∈ l.tickets, t.2 ≠ ticket) → s'.Outlives engine w all l k) := by
  rw [claimFor]
  by_cases hlt : ticket < s.queue.accepted
  · rw [if_pos hlt]
    exact h.receive? (hheld hlt)
  · have hk := Nat.le_trans h.queue.taken_le (Nat.not_lt.1 hlt)
    refine ⟨s, ?_, fun _ => h⟩
    rw [if_neg hlt, Session.receive?, responseIn_of_died h.queue.died hk]

/-! ### Requests and events -/

theorem Outlives.count (h : s.Outlives engine w all l k) : s.Outlives engine w all l.count k :=
  { h with
    queue := h.queue.count
    issued := fun t ht => Nat.lt_succ_of_lt (h.issued t ht) }

theorem Outlives.readEvents (h : s.Outlives engine w all l k) :
    s.readEvents.1 = eventsIn (Worker.trace engine w all) l.reported l.submitted ∧
      s.readEvents.2.Outlives engine w all l.report k := by
  obtain ⟨hevents, hq⟩ := h.queue.readEvents
  exact ⟨hevents, hq, h.isOpen, h.handles, h.held, h.issued, h.distinct⟩

/-- A request that comes too late is refused, and the refusal is kept under its name. -/
theorem Outlives.submit (h : s.Outlives engine w all l k) (name : String) (r : Request) :
    (s.submit name r).Outlives engine w all (l.keep name) k := by
  have hrelease := (h.release name).count
  have hle : (s.release name).queue.accepted ≤ l.submitted := (h.release name).queue.accepted_le
  rw [Session.submit, hrelease.queue.submit r]
  refine ⟨hrelease.queue, hrelease.isOpen, ?_, fun t ht hlt => ?_, fun t ht => ?_, ?_⟩
  · simp only [hrelease.handles, Ledger.keep, List.map_cons]
    rw [claimFor, if_neg (Nat.not_lt.2 hle)]
    rfl
  · rcases List.mem_cons.1 ht with rfl | ht
    · exact absurd hlt (Nat.not_lt.2 hle)
    · exact hrelease.held t ht hlt
  · rcases List.mem_cons.1 ht with rfl | ht
    · exact Nat.lt_succ_self l.submitted
    · exact hrelease.issued t ht
  · refine List.nodup_cons.2 ⟨fun hm => ?_, hrelease.distinct⟩
    obtain ⟨t, ht, heq⟩ := List.mem_map.1 hm
    exact absurd heq (Nat.ne_of_lt ((h.release name).issued t ht))

/-! ### Steps -/

theorem Outlives.exchange (h : s.Outlives engine w all l k)
    (f : Except Error Response → List Event → Answer) : ∃ s',
    s.finish? (.exchange (.error .workerTerminated) f) =
      some (f (responseIn (Worker.trace engine w all) l.submitted)
        (eventsIn (Worker.trace engine w all) l.reported (l.submitted + 1)), s') ∧
      s'.Outlives engine w all l.count.report k := by
  obtain ⟨hevents, hread⟩ := h.count.readEvents
  have hk := Nat.le_trans h.queue.taken_le h.queue.accepted_le
  refine ⟨_, ?_, hread⟩
  rw [Session.finish?, responseIn_of_died h.queue.died hk, Session.receive?, Option.map_some]
  simp only [hevents]
  rfl

/-- **Every step begins and ends without the worker**, and is answered as the ledger says. -/
theorem Outlives.takes (h : s.Outlives engine w all l k) (hl : l.step? step = some (receipt, l')) :
    ∃ pending s₁ s₂, s.start? step = some (pending, s₁) ∧ s₁.queue.worker = none ∧
      s₁.finish? pending = some (receipt.answer (Worker.trace engine w all), s₂) ∧
      s₂.Outlives engine w all l' k := by
  cases Ledger.enters hl with
  | @wait name ticket hlookup =>
    have hunnamed := ne_of_mem_release h.distinct hlookup
    have hunname := h.unname name
    obtain ⟨s₂, hreceive, hs₂⟩ := hunname.receive?_claimFor (h.held _ (mem_of_lookup hlookup))
    refine ⟨.wait (claimFor all s.queue.accepted ticket), _, s₂, ?_, hunname.queue.worker, ?_,
      hs₂ hunnamed⟩
    · rw [Session.start?, h.lookup, hlookup]
      rfl
    · rw [Session.finish?, hreceive, Option.map_some]
      rfl
  | @forget name hlookup =>
    have hrelease := h.release name
    refine ⟨.done .forgotten, _, _, ?_, hrelease.queue.worker, rfl, hrelease⟩
    rw [Session.start?, h.lookup, Option.isSome_map, if_pos hlookup]
  | @submit name main id assets hopen =>
    have hsubmit := h.submit name { id, main, assets }
    refine ⟨.done .submitted, _, _, ?_, hsubmit.queue.worker, rfl, hsubmit⟩
    rw [Session.start?, h.isOpen, if_pos hopen]
  | @submitRequest name r hopen =>
    have hsubmit := h.submit name r
    refine ⟨.done (.submittedAs r.id), _, _, ?_, hsubmit.queue.worker, rfl, hsubmit⟩
    rw [Session.start?, h.isOpen, if_pos hopen]
  | compile hopen =>
    obtain ⟨s₂, hfinish, hs₂⟩ := h.exchange fun response events =>
      .compiled (Response.result response) events
    refine ⟨_, s, s₂, ?_, h.queue.worker, hfinish, hs₂⟩
    rw [Session.start?, h.isOpen, if_pos hopen, Session.send, h.queue.submit]
  | request hopen =>
    obtain ⟨s₂, hfinish, hs₂⟩ := h.exchange .responded
    refine ⟨_, s, s₂, ?_, h.queue.worker, hfinish, hs₂⟩
    rw [Session.start?, h.isOpen, if_pos hopen, Session.send, h.queue.submit]
  | drop hopen =>
    have hclose : Outlives engine w all { s with queue := { s.queue with isOpen := false } }
        { l with isOpen := false } k :=
      ⟨h.queue.close, rfl, h.handles, h.held, h.issued, h.distinct⟩
    obtain ⟨hevents, hread⟩ := hclose.readEvents
    refine ⟨.drop, _, _, ?_, hclose.queue.worker, ?_, hread⟩
    · rw [Session.start?, h.isOpen, if_pos hopen]
    · rw [Session.finish?, hclose.queue.jobs, hevents]
      rfl

theorem Outlives.start?_eq_none (h : s.Outlives engine w all l k) (hl : l.step? step = none) :
    s.start? step = none :=
  Session.start?_eq_none h.isOpen (fun name => by rw [h.lookup, Option.isSome_map]) hl

/-- A step that was begun while the worker lived ends as it must. -/
theorem Outlives.finish? (h : s.Outlives engine w all l k)
    (ho : pending.Owes all (Worker.trace engine w all) s l answer l') :
    ∃ s', s.finish? pending = some (answer, s') ∧ s'.Outlives engine w all l' k := by
  cases ho with
  | done => exact ⟨s, rfl, h⟩
  | exchange holds last =>
    obtain ⟨s₁, hreceive, hs₁⟩ := h.receive? holds.held
    obtain ⟨hevents, hread⟩ := (hs₁ holds.unnamed).readEvents
    refine ⟨_, ?_, hread⟩
    rw [Session.finish?, hreceive, Option.map_some]
    simp only [hevents]
  | wait holds =>
    obtain ⟨s₁, hreceive, hs₁⟩ := h.receive? holds.held
    refine ⟨s₁, ?_, hs₁ holds.unnamed⟩
    rw [Session.finish?, hreceive, Option.map_some]
  | drop =>
    obtain ⟨hevents, hread⟩ := h.readEvents
    refine ⟨_, ?_, hread⟩
    rw [Session.finish?, h.queue.jobs, hevents]
    rfl

end Session

end Typeset.Compile
