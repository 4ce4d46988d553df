/-
A queue in the middle of its work.

When a queue accepted `n` of a client's requests and the worker took `k` of
them, everything in the queue is determined: what is in line, which mailboxes
are full and with what, and which events were not read. Whatever the client and
the worker do next keeps it so.
-/
import Typeset.Proofs.Compile.Ledger
import Typeset.Proofs.Compile.Pace

namespace Typeset.Compile

variable {engine : Engine} {w : Option Worker} {all : List Request} {q : Queue} {r : Request}
  {n k m reported : Nat}

/-- The jobs in line when `n` requests were accepted and `k` taken. -/
def lined (all : List Request) (n k : Nat) : List Job :=
  ((all.take n).zipIdx.drop k).map fun e => ⟨e.2, e.1⟩

theorem length_lined_le (all : List Request) (n k : Nat) : (lined all n k).length ≤ all.length := by
  rw [lined, List.length_map, List.length_drop, List.length_zipIdx, List.length_take]
  omega

theorem lined_self : lined all n n = [] := by
  have hle : (all.take n).zipIdx.length ≤ n := by
    rw [List.length_zipIdx]
    exact List.length_take_le ..
  rw [lined, List.drop_eq_nil_of_le hle]
  rfl

theorem lined_cons (hk : k < n) (hr : all[k]? = some r) :
    lined all n k = ⟨k, r⟩ :: lined all n (k + 1) := by
  obtain ⟨hlen, hget⟩ := List.getElem?_eq_some_iff.1 hr
  have hlt : k < (all.take n).zipIdx.length := by
    rw [List.length_zipIdx, List.length_take]
    omega
  rw [lined, List.drop_eq_getElem_cons hlt]
  simp [lined, hget]

theorem lined_concat (hk : k ≤ n) (hr : all[n]? = some r) :
    lined all (n + 1) k = lined all n k ++ [⟨n, r⟩] := by
  obtain ⟨hlen, -⟩ := List.getElem?_eq_some_iff.1 hr
  have htake : (all.take n).length = n := List.length_take_of_le (Nat.le_of_lt hlen)
  have hle : k ≤ (all.take n).zipIdx.length := by rwa [List.length_zipIdx, htake]
  rw [lined, List.take_add_one, hr, List.zipIdx_append, List.drop_append_of_le_length hle]
  simp [lined, htake]

namespace Queue

/-! ## What the worker leaves alone -/

@[simp] theorem isOpen_advance (engine : Engine) (q : Queue) :
    (q.advance engine).isOpen = q.isOpen := by
  unfold advance
  split
  · simp only
    split <;> rfl
  · rfl

theorem map_fst_deliver (mailboxes : List (Nat × Option Response)) (ticket : Nat) (r : Response) :
    (deliver mailboxes ticket r).map (·.1) = mailboxes.map (·.1) := by
  rw [deliver, List.map_map]
  congr 1
  funext m
  simp only [Function.comp_apply]
  split <;> rfl

theorem map_fst_mailboxes_advance (engine : Engine) (q : Queue) :
    (q.advance engine).mailboxes.map (·.1) = q.mailboxes.map (·.1) := by
  unfold advance
  split
  · simp only
    split
    · exact map_fst_deliver ..
    · rfl
  · rfl

theorem map_fst_mailboxes_advanceTimes (engine : Engine) (m : Nat) (q : Queue) :
    (advanceTimes engine m q).mailboxes.map (·.1) = q.mailboxes.map (·.1) := by
  induction m generalizing q with
  | zero => rfl
  | succ m ih => rw [advanceTimes, ih, map_fst_mailboxes_advance]

/-! ## The invariant -/

/-- A queue that accepted the first `n` of all requests, whose worker took the first `k`, and whose
client read the events of the first `reported`. -/
structure Serves (engine : Engine) (w : Option Worker) (all : List Request) (q : Queue)
    (n k reported : Nat) : Prop where
  reported_le : reported ≤ k
  taken_le : k ≤ n
  accepted_le : n ≤ all.length
  worker : q.worker = Worker.after engine w (all.take k)
  accepted : q.accepted = n
  jobs : q.jobs = lined all n k
  mailboxes : ∀ m ∈ q.mailboxes, m.1 < n ∧
    m.2 = if m.1 < k then sentIn (Worker.trace engine w all) m.1 else none
  unread : q.unread = eventsIn (Worker.trace engine w all) reported k

/-- The worker takes the next request in line, and survives it. -/
theorem Serves.advance (h : q.Serves engine w all n k reported)
    (hnext : Worker.Survives engine w (all.take (k + 1))) (hk : k < n) :
    (q.advance engine).Serves engine w all n (k + 1) reported ∧ q.upcoming = all[k]? := by
  obtain ⟨r, hr⟩ : ∃ r, all[k]? = some r :=
    ⟨_, List.getElem?_eq_getElem (Nat.lt_of_lt_of_le hk h.accepted_le)⟩
  obtain ⟨worker, events, response, left, hworker, hp, hleft, htrace⟩ :=
    Worker.exists_process hr hnext
  rw [← h.worker] at hworker
  have hjobs := h.jobs
  rw [lined_cons hk hr] at hjobs
  refine ⟨?_, by rw [upcoming, hworker, hjobs, hr]; rfl⟩
  have hadvance : q.advance engine = { q with
      worker := some left
      jobs := lined all n (k + 1)
      mailboxes := deliver q.mailboxes k response
      unread := q.unread ++ events } := by
    rw [Queue.advance, hworker, hjobs]
    simp only [hp]
  rw [hadvance]
  refine ⟨Nat.le_succ_of_le h.reported_le, hk, h.accepted_le, hleft.symm, h.accepted, rfl,
    fun m hm => ?_, ?_⟩
  · obtain ⟨m, hmem, rfl⟩ := List.mem_map.1 hm
    obtain ⟨hlt, hm⟩ := h.mailboxes m hmem
    by_cases hkey : m.1 = k
    · rw [if_pos hkey, hkey, if_pos (Nat.lt_succ_self k), sentIn, htrace]
      exact ⟨hk, rfl⟩
    · have hiff : m.1 < k + 1 ↔ m.1 < k := by omega
      rw [if_neg hkey]
      simp only [hiff]
      exact ⟨hlt, hm⟩
  · rw [← eventsIn_append h.reported_le (Nat.le_succ k), eventsIn_succ htrace, ← h.unread]

/-! ## What a client does to it -/

theorem Serves.submit (h : q.Serves engine w all n k reported)
    (hlive : Worker.Survives engine w (all.take k)) (hopen : q.isOpen) (hr : all[n]? = some r) :
    ∃ q', q.submit r = (.ok ⟨r.id, n⟩, q') ∧ q'.Serves engine w all (n + 1) k reported ∧
      q'.isOpen ∧ q'.mailboxes.map (·.1) = n :: q.mailboxes.map (·.1) := by
  obtain ⟨worker, hworker⟩ := Option.isSome_iff_exists.1 hlive
  rw [← h.worker] at hworker
  refine ⟨{ q with
    accepted := n + 1
    jobs := lined all (n + 1) k
    mailboxes := (n, none) :: q.mailboxes }, ?_, ?_, hopen, rfl⟩
  · rw [Queue.submit, hopen, hworker, h.accepted, h.jobs, lined_concat h.taken_le hr]
    rfl
  · have hlen := (List.getElem?_eq_some_iff.1 hr).1
    refine ⟨h.reported_le, Nat.le_succ_of_le h.taken_le, hlen, h.worker, rfl, rfl,
      fun m hm => ?_, h.unread⟩
    rcases List.mem_cons.1 hm with rfl | hm
    · exact ⟨Nat.lt_succ_self n, (if_neg (Nat.not_lt.2 h.taken_le)).symm⟩
    · obtain ⟨hlt, hm⟩ := h.mailboxes m hm
      exact ⟨Nat.lt_succ_of_lt hlt, hm⟩

theorem Serves.forget (h : q.Serves engine w all n k reported) (handle : Handle) :
    (q.forget handle).Serves engine w all n k reported :=
  { h with mailboxes := fun m hm => h.mailboxes m (List.mem_filter.1 hm).1 }

theorem Serves.close (h : q.Serves engine w all n k reported) :
    Serves engine w all { q with isOpen := false } n k reported :=
  { h with }

theorem Serves.readEvents (h : q.Serves engine w all n k reported) :
    q.readEvents.1 = eventsIn (Worker.trace engine w all) reported k ∧
      q.readEvents.2.Serves engine w all n k k :=
  ⟨h.unread, { h with reported_le := Nat.le_refl k, unread := eventsIn_self.symm }⟩

/-- There is a mailbox behind every ticket that is held. -/
theorem exists_mailbox {mailboxes : List (Nat × Option Response)} {ticket : Nat}
    (hheld : ticket ∈ mailboxes.map (·.1)) :
    ∃ sent, mailboxes.lookup ticket = some sent ∧ (ticket, sent) ∈ mailboxes := by
  obtain ⟨m, hm, rfl⟩ := List.mem_map.1 hheld
  obtain ⟨sent, hsent⟩ := Option.isSome_iff_exists.1
    (List.lookup_isSome_iff.2 ⟨m, hm, beq_self_eq_true m.1⟩)
  exact ⟨sent, hsent, mem_of_lookup hsent⟩

theorem Serves.lookup (h : q.Serves engine w all n k reported) {ticket : Nat}
    (hheld : ticket ∈ q.mailboxes.map (·.1)) :
    ticket < n ∧ q.mailboxes.lookup ticket =
      some (if ticket < k then sentIn (Worker.trace engine w all) ticket else none) := by
  obtain ⟨sent, hlookup, hmem⟩ := exists_mailbox hheld
  obtain ⟨hlt, hsent⟩ := h.mailboxes _ hmem
  exact ⟨hlt, by rw [hlookup, ← hsent]⟩

theorem exists_sentIn_of_survives (h : Worker.Survives engine w (all.take (k + 1)))
    (hr : all[k]? = some r) :
    ∃ response, sentIn (Worker.trace engine w all) k = some response ∧ response.id = r.id := by
  obtain ⟨events, response, htrace, hid⟩ := Worker.exists_response hr h
  exact ⟨response, by rw [sentIn, htrace, Option.bind_some], hid⟩

theorem exists_sentIn (hall : Worker.Survives engine w all) (hr : all[k]? = some r) :
    ∃ response, sentIn (Worker.trace engine w all) k = some response ∧ response.id = r.id :=
  exists_sentIn_of_survives (hall.take (k + 1)) hr

/-- **A held handle receives its own response**, as soon as the worker is past its request. -/
theorem Serves.receive? (h : q.Serves engine w all n k reported)
    (hlive : Worker.Survives engine w (all.take k)) {handle : Handle}
    (hheld : handle.ticket ∈ q.mailboxes.map (·.1)) :
    q.receive? handle = if handle.ticket < k then
      some (responseIn (Worker.trace engine w all) handle.ticket, q.forget handle) else none := by
  obtain ⟨hlt, hlookup⟩ := h.lookup hheld
  unfold Queue.receive?
  rw [hlookup]
  by_cases hk : handle.ticket < k
  · have hr := List.getElem?_eq_getElem (Nat.lt_of_lt_of_le hlt h.accepted_le)
    obtain ⟨response, hsent, -⟩ := exists_sentIn_of_survives (hlive.take_of_le hk) hr
    rw [if_pos hk, if_pos hk, responseIn, hsent]
  · obtain ⟨worker, hworker⟩ := Option.isSome_iff_exists.1 hlive
    rw [← h.worker] at hworker
    rw [if_neg hk, if_neg hk, hworker]
    rfl

end Queue

end Typeset.Compile
