/-
A session that keeps to its ledger.

Every handle that a client holds has a mailbox of its own, so what it does with
one leaves the others alone. From this each turn is answered as the ledger says,
whatever the worker's pace, and the only other way it can go is that the worker
does not get far enough.
-/
import Mathlib.Data.List.Nodup
import Typeset.Proofs.Compile.Service

namespace Typeset.Compile

variable {engine : Engine} {w : Option Worker} {all : List Request} {s : Session} {l l' : Ledger}
  {r : Request} {k ticket : Nat} {name : String} {handle : Handle} {answer : Answer}

/-- The handle for a ticket. -/
def handleFor (all : List Request) (ticket : Nat) : Handle :=
  ⟨(all[ticket]?.map (·.id)).getD "", ticket⟩

theorem handleFor_eq (hr : all[ticket]? = some r) : handleFor all ticket = ⟨r.id, ticket⟩ := by
  rw [handleFor, hr]
  rfl

namespace Session

/-- A session whose queue serves as far as the ledger counts, and whose handles are the tickets of
the ledger, each with a mailbox. -/
structure Tracks (engine : Engine) (w : Option Worker) (all : List Request) (s : Session)
    (l : Ledger) (k : Nat) : Prop where
  queue : s.queue.Serves engine w all l.submitted k l.reported
  isOpen : s.queue.isOpen = l.isOpen
  handles : s.handles = l.tickets.map fun t => (t.1, .ok (handleFor all t.2))
  held : ∀ t ∈ l.tickets, t.2 ∈ s.queue.mailboxes.map (·.1)
  distinct : (l.tickets.map (·.2)).Nodup

/-- A mailbox that is held, and under no name. -/
structure Holds (s : Session) (l : Ledger) (ticket : Nat) : Prop where
  held : ticket ∈ s.queue.mailboxes.map (·.1)
  unnamed : ∀ t ∈ l.tickets, t.2 ≠ ticket

theorem Holds.work (h : s.Holds l ticket) (m : Nat) : (s.work engine m).Holds l ticket := by
  refine ⟨?_, h.unnamed⟩
  rw [Session.work, Queue.map_fst_mailboxes_advanceTimes]
  exact h.held

/-! ## Handles -/

theorem nodup_release (h : (l.tickets.map (·.2)).Nodup) (name : String) :
    ((l.release name).tickets.map (·.2)).Nodup :=
  h.sublist (List.filter_sublist.map _)

theorem ne_of_mem_release (h : (l.tickets.map (·.2)).Nodup)
    (hl : l.tickets.lookup name = some ticket) : ∀ t ∈ (l.release name).tickets, t.2 ≠ ticket := by
  intro t ht heq
  obtain ⟨ht, hname⟩ := List.mem_filter.1 ht
  obtain rfl := List.inj_on_of_nodup_map h ht (mem_of_lookup hl) heq
  simp at hname

theorem mem_mailboxes_forget {q : Queue} (hheld : ticket ∈ q.mailboxes.map (·.1))
    (hne : ticket ≠ handle.ticket) : ticket ∈ (q.forget handle).mailboxes.map (·.1) := by
  obtain ⟨m, hm, rfl⟩ := List.mem_map.1 hheld
  exact List.mem_map.2 ⟨m, List.mem_filter.2 ⟨hm, by simpa using hne⟩, rfl⟩

theorem lookup_map_snd {α β : Type} (f : α → β) (es : List (String × α)) (name : String) :
    (es.map fun e => (e.1, f e.2)).lookup name = (es.lookup name).map f := by
  induction es with
  | nil => rfl
  | cons e es ih =>
    rw [List.map_cons, List.lookup_cons, List.lookup_cons, ih]
    cases name == e.1 <;> rfl

theorem Tracks.lookup (h : s.Tracks engine w all l k) (name : String) :
    s.handles.lookup name =
      (l.tickets.lookup name).map fun ticket => .ok (handleFor all ticket) := by
  rw [h.handles]
  exact lookup_map_snd (fun ticket => Except.ok (handleFor all ticket)) l.tickets name

theorem Tracks.unname (h : s.Tracks engine w all l k) (name : String) :
    Tracks engine w all { s with handles := s.handles.filter (·.1 != name) } (l.release name)
      k := by
  refine ⟨h.queue, h.isOpen, ?_, fun t ht => h.held t (List.mem_filter.1 ht).1,
    nodup_release h.distinct name⟩
  rw [h.handles, List.filter_map]
  rfl

theorem Tracks.holds (h : s.Tracks engine w all l k) (hl : l.tickets.lookup name = some ticket) :
    Holds { s with handles := s.handles.filter (·.1 != name) } (l.release name) ticket :=
  ⟨h.held _ (mem_of_lookup hl), ne_of_mem_release h.distinct hl⟩

theorem Tracks.forget (h : s.Tracks engine w all l k) (hh : s.Holds l handle.ticket) :
    Tracks engine w all { s with queue := s.queue.forget handle } l k :=
  ⟨h.queue.forget handle, h.isOpen, h.handles,
    fun t ht => mem_mailboxes_forget (h.held t ht) (hh.unnamed t ht), h.distinct⟩

theorem Tracks.release (h : s.Tracks engine w all l k) (name : String) :
    (s.release name).Tracks engine w all (l.release name) k := by
  unfold Session.release
  rw [h.lookup]
  cases hl : l.tickets.lookup name with
  | none => exact h.unname name
  | some ticket => exact (h.unname name).forget (h.holds hl)

/-! ## Requests and responses -/

theorem Tracks.send (h : s.Tracks engine w all l k) (hlive : Worker.Survives engine w (all.take k))
    (hopen : l.isOpen) (hr : all[l.submitted]? = some r) :
    ∃ q, s.queue.submit r = (.ok (handleFor all l.submitted), q) ∧
      Tracks engine w all { s with queue := q } l.count k ∧
      Holds { s with queue := q } l.count l.submitted := by
  obtain ⟨q, hsubmit, hq, hqopen, hkeys⟩ := h.queue.submit hlive (h.isOpen.trans hopen) hr
  refine ⟨q, ?_, ⟨hq, ?_, h.handles, fun t ht => ?_, h.distinct⟩, ?_, fun t ht => ?_⟩
  · rw [hsubmit, handleFor_eq hr]
  · exact hqopen.trans hopen.symm
  · rw [hkeys]
    exact List.mem_cons_of_mem _ (h.held t ht)
  · rw [hkeys]
    exact List.mem_cons_self
  · exact Nat.ne_of_lt (h.queue.lookup (h.held t ht)).1

theorem Tracks.submit (h : s.Tracks engine w all l k)
    (hlive : Worker.Survives engine w (all.take k))
    (hopen : l.isOpen) (hr : all[l.submitted]? = some r) (name : String) :
    (s.submit name r).Tracks engine w all (l.keep name) k := by
  have hrelease := h.release name
  obtain ⟨q, hsubmit, hq, hholds⟩ := hrelease.send hlive hopen hr
  rw [Session.submit, hsubmit]
  refine ⟨hq.queue, hq.isOpen, ?_, fun t ht => ?_, ?_⟩
  · simp only [hrelease.handles]
    rfl
  · rcases List.mem_cons.1 ht with rfl | ht
    · exact hholds.held
    · exact hq.held t ht
  · refine List.nodup_cons.2 ⟨fun hm => ?_, hrelease.distinct⟩
    obtain ⟨t, ht, heq⟩ := List.mem_map.1 hm
    exact hholds.unnamed t ht heq

/-- What is held is received, once the worker is past it. -/
theorem Tracks.receive? (h : s.Tracks engine w all l k)
    (hlive : Worker.Survives engine w (all.take k))
    (hheld : ticket ∈ s.queue.mailboxes.map (·.1)) :
    s.receive? (.ok (handleFor all ticket)) = if ticket < k then
      some (responseIn (Worker.trace engine w all) ticket,
        { s with queue := s.queue.forget (handleFor all ticket) }) else none := by
  have hreceive : s.queue.receive? (handleFor all ticket) = if ticket < k then
      some (responseIn (Worker.trace engine w all) ticket, s.queue.forget (handleFor all ticket))
      else none := h.queue.receive? hlive hheld
  show Option.map _ (s.queue.receive? (handleFor all ticket)) = _
  rw [hreceive]
  by_cases hk : ticket < k
  · rw [if_pos hk, if_pos hk]
    rfl
  · rw [if_neg hk, if_neg hk]
    rfl

theorem Tracks.readEvents (h : s.Tracks engine w all l l.submitted) :
    s.readEvents.1 = eventsIn (Worker.trace engine w all) l.reported l.submitted ∧
      s.readEvents.2.Tracks engine w all l.report l.submitted := by
  obtain ⟨hevents, hq⟩ := h.queue.readEvents
  exact ⟨hevents, hq, h.isOpen, h.handles, h.held, h.distinct⟩

end Session

/-! ## Turns -/

/-- How a step that a client is in the middle of ends: the answer, and the ledger behind it. -/
inductive Pending.Owes (all : List Request) (served : Served)
    (s : Session) : Pending → Ledger → Answer → Ledger → Prop where
  | done {l : Ledger} {answer : Answer} : Owes all served s (.done answer) l answer l
  | exchange {l : Ledger} {ticket : Nat} {answer : Except Error Response → List Event → Answer}
      (holds : s.Holds l ticket) (last : ticket + 1 = l.submitted) :
      Owes all served s (.exchange (.ok (handleFor all ticket)) answer) l
        (answer (responseIn served ticket) (eventsIn served l.reported l.submitted)) l.report
  | wait {l : Ledger} {ticket : Nat} (holds : s.Holds l ticket) :
      Owes all served s (.wait (.ok (handleFor all ticket))) l
        (.waited (Response.result (responseIn served ticket))) l
  | drop {l : Ledger} :
      Owes all served s .drop l (.dropped (eventsIn served l.reported l.submitted)) l.report

theorem Pending.Owes.work {served : Served} {pending : Pending}
    (h : pending.Owes all served s l answer l') (m : Nat) :
    pending.Owes all served (s.work engine m) l answer l' := by
  cases h with
  | done => exact .done
  | exchange holds last => exact .exchange (holds.work m) last
  | wait holds => exact .wait (holds.work m)
  | drop => exact .drop

namespace Session

variable {receipt : Receipt} {pending : Pending} {step : Step}

/-- A client begins what the ledger enters. -/
theorem Tracks.start? (h : s.Tracks engine w all l k)
    (hlive : Worker.Survives engine w (all.take k))
    (hsub : ∀ r, step.submission? = some r → all[l.submitted]? = some r)
    (hl : l.step? step = some (receipt, l')) : ∃ pending s' l₁,
      s.start? step = some (pending, s') ∧ s'.Tracks engine w all l₁ k ∧
      pending.Owes all (Worker.trace engine w all) s' l₁
        (receipt.answer (Worker.trace engine w all)) l' := by
  cases Ledger.enters hl with
  | @wait name ticket hlookup =>
    refine ⟨_, _, _, ?_, h.unname name, .wait (h.holds hlookup)⟩
    rw [Session.start?, h.lookup, hlookup]
    rfl
  | @forget name hlookup =>
    refine ⟨_, _, _, ?_, h.release name, .done⟩
    rw [Session.start?, h.lookup, Option.isSome_map, if_pos hlookup]
    rfl
  | @submit name _ _ _ hopen | @submitRequest name _ hopen =>
    refine ⟨_, _, _, ?_, h.submit hlive hopen (hsub _ rfl) name, .done⟩
    rw [Session.start?, h.isOpen, if_pos hopen]
    rfl
  | compile hopen =>
    obtain ⟨q, hsubmit, hq, hholds⟩ := h.send hlive hopen (hsub _ rfl)
    refine ⟨.exchange (.ok (handleFor all l.submitted)) fun response events =>
      .compiled (Response.result response) events, _, _, ?_, hq, .exchange hholds rfl⟩
    rw [Session.start?, h.isOpen, if_pos hopen, Session.send, hsubmit]
  | request hopen =>
    obtain ⟨q, hsubmit, hq, hholds⟩ := h.send hlive hopen (hsub _ rfl)
    refine ⟨.exchange (.ok (handleFor all l.submitted)) .responded, _, _, ?_, hq,
      .exchange hholds rfl⟩
    rw [Session.start?, h.isOpen, if_pos hopen, Session.send, hsubmit]
  | drop hopen =>
    refine ⟨.drop, { s with queue := { s.queue with isOpen := false } },
      { l with isOpen := false }, ?_, ⟨h.queue.close, rfl, h.handles, h.held, h.distinct⟩, .drop⟩
    rw [Session.start?, h.isOpen, if_pos hopen]

/-- A client with the names of the ledger begins no step that the ledger does not enter. -/
theorem start?_eq_none (hopen : s.queue.isOpen = l.isOpen)
    (hnames : ∀ name, (s.handles.lookup name).isSome = (l.tickets.lookup name).isSome)
    (hl : l.step? step = none) : s.start? step = none := by
  cases step with
  | wait name =>
    have hname : s.handles.lookup name = none := by
      rw [← Option.not_isSome_iff_eq_none, hnames, Option.map_eq_none_iff.1 hl]
      simp
    rw [Session.start?, hname]
    rfl
  | forget name =>
    simp only [Ledger.step?, ite_eq_right_iff, reduceCtorEq, imp_false] at hl
    rw [Session.start?, hnames, if_neg hl]
  | _ =>
    simp only [Ledger.step?, ite_eq_right_iff, reduceCtorEq, imp_false] at hl
    rw [Session.start?, hopen, if_neg hl]

theorem Tracks.start?_eq_none (h : s.Tracks engine w all l k) (hl : l.step? step = none) :
    s.start? step = none :=
  Session.start?_eq_none h.isOpen (fun name => by rw [h.lookup, Option.isSome_map]) hl

/-- A step ends as it must, or the worker is not there yet. -/
theorem Tracks.finish? (h : s.Tracks engine w all l k)
    (hlive : Worker.Survives engine w (all.take k))
    (ho : pending.Owes all (Worker.trace engine w all) s l answer l') :
    (∃ s', s.finish? pending = some (answer, s') ∧ s'.Tracks engine w all l' k) ∨
      s.finish? pending = none ∧ k < l.submitted := by
  cases ho with
  | done => exact .inl ⟨s, rfl, h⟩
  | @exchange l ticket f holds last =>
    have hreceive := h.receive? hlive holds.held
    have hle := h.queue.taken_le
    by_cases hk : ticket < k
    · obtain rfl : k = l.submitted := by omega
      have hforget : Tracks engine w all
          { s with queue := s.queue.forget (handleFor all ticket) } l l.submitted := h.forget holds
      obtain ⟨hevents, hread⟩ := hforget.readEvents
      refine .inl ⟨_, ?_, hread⟩
      rw [Session.finish?, hreceive, if_pos hk, Option.map_some]
      simp only [hevents]
    · refine .inr ⟨?_, by omega⟩
      rw [Session.finish?, hreceive, if_neg hk, Option.map_none]
  | @wait l ticket holds =>
    have hreceive := h.receive? hlive holds.held
    by_cases hk : ticket < k
    · refine .inl ⟨{ s with queue := s.queue.forget (handleFor all ticket) }, ?_, h.forget holds⟩
      rw [Session.finish?, hreceive, if_pos hk, Option.map_some]
    · refine .inr ⟨?_, Nat.lt_of_le_of_lt (Nat.not_lt.1 hk) (h.queue.lookup holds.held).1⟩
      rw [Session.finish?, hreceive, if_neg hk, Option.map_none]
  | drop =>
    by_cases hk : k < l.submitted
    · refine .inr ⟨?_, hk⟩
      have hr := List.getElem?_eq_getElem (Nat.lt_of_lt_of_le hk h.queue.accepted_le)
      rw [Session.finish?, h.queue.jobs, lined_cons hk hr]
      rfl
    · obtain rfl : k = l.submitted := Nat.le_antisymm h.queue.taken_le (Nat.not_lt.1 hk)
      obtain ⟨hevents, hread⟩ := h.readEvents
      refine .inl ⟨_, ?_, hread⟩
      rw [Session.finish?, h.queue.jobs, lined_self, hevents]
      rfl

end Session

end Typeset.Compile
