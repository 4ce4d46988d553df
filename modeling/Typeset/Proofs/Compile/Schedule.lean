/-
Schedules on a queue whose worker may die.

Whatever the compiler does, the requests are taken in order until it panics,
and from then on none is taken. The answers are those of the ledger all the
same: a step of a client is answered as if the worker had served every request,
the later ones with no event and no response. That a step does not end can only
be because the worker is not far enough.
-/
import Typeset.Proofs.Compile.Collapse

namespace Typeset.Compile

variable {engine : Engine} {w : Option Worker} {all : List Request} {q : Queue} {s : Session}
  {l l' : Ledger} {k : Nat} {receipt : Receipt} {step : Step}

namespace Session

/-- A session whose worker took the first `k` of all requests: it lives, or it died of the last of
them. -/
inductive Reaches (engine : Engine) (w : Option Worker) (all : List Request) (s : Session)
    (l : Ledger) (k : Nat) : Prop
  | alive (tracks : s.Tracks engine w all l k) (lives : Worker.Survives engine w (all.take k))
  | dead (outlives : s.Outlives engine w all l k)
      (lived : ∀ i < k, Worker.Survives engine w (all.take i))

theorem Reaches.lived (h : s.Reaches engine w all l k) {i : Nat} (hi : i < k) :
    Worker.Survives engine w (all.take i) := by
  cases h with
  | alive _ lives => exact lives.take_of_le (Nat.le_of_lt hi)
  | dead _ lived => exact lived i hi

theorem Reaches.isOpen (h : s.Reaches engine w all l k) : s.queue.isOpen = l.isOpen := by
  cases h with
  | alive tracks => exact tracks.isOpen
  | dead outlives => exact outlives.isOpen

theorem not_survives_of_died (h : Worker.after engine w (all.take k) = none) :
    ¬ Worker.Survives engine w (all.take k) := by
  simp [Worker.Survives, h]

/-- Where the worker survives every request, nothing is lost. -/
theorem Reaches.tracks (h : s.Reaches engine w all l k) (hall : Worker.Survives engine w all) :
    s.Tracks engine w all l k := by
  cases h with
  | alive tracks => exact tracks
  | dead outlives => exact absurd (hall.take k) (not_survives_of_died outlives.queue.died)

/-! ## The worker goes on -/

/-- The worker takes the next request, or there is nothing that it could take. -/
theorem Reaches.advance (h : s.Reaches engine w all l k) :
    (Reaches engine w all { s with queue := s.queue.advance engine } l (k + 1) ∧
      s.queue.upcoming = all[k]? ∧ k < all.length) ∨
    s.queue.advance engine = s.queue ∧ s.queue.upcoming = none ∧
      (Worker.Survives engine w (all.take k) → k = l.submitted) := by
  cases h with
  | dead ho =>
    refine .inr ⟨ho.queue.advance, by simp [Queue.upcoming, ho.queue.worker], fun hs => ?_⟩
    exact absurd hs (not_survives_of_died ho.queue.died)
  | alive ht lives =>
    rcases Nat.eq_or_lt_of_le ht.queue.taken_le with heq | hk
    · have hjobs : s.queue.jobs = [] := by rw [ht.queue.jobs, ← heq, lined_self]
      exact .inr ⟨Queue.advance_of_jobs_nil hjobs, by simp [Queue.upcoming, hjobs], fun _ => heq⟩
    · have hlen := Nat.lt_of_lt_of_le hk ht.queue.accepted_le
      cases hnext : Worker.after engine w (all.take (k + 1)) with
      | none =>
        obtain ⟨ho, hupcoming⟩ := ht.fall lives hnext hk
        refine .inl ⟨.dead ho fun i hi => ?_, hupcoming, hlen⟩
        exact lives.take_of_le (Nat.le_of_lt_succ hi)
      | some left =>
        have hsurvives : Worker.Survives engine w (all.take (k + 1)) := by
          simp [Worker.Survives, hnext]
        obtain ⟨hq, hupcoming⟩ := ht.queue.advance hsurvives hk
        refine .inl ⟨.alive ⟨hq, ?_, ht.handles, fun t hm => ?_, ht.distinct⟩ hsurvives, hupcoming,
          hlen⟩
        · exact (Queue.isOpen_advance engine s.queue).trans ht.isOpen
        · rw [Queue.map_fst_mailboxes_advance]
          exact ht.held t hm

/-- The worker goes on for a while, until nothing is in line or it dies. -/
theorem Reaches.work (h : s.Reaches engine w all l k) (m : Nat) : ∃ k', k ≤ k' ∧ k' ≤ k + m ∧
    (s.work engine m).Reaches engine w all l k' ∧ s.queue.taken engine m = (all.take k').drop k ∧
    (Worker.Survives engine w (all.take k') → k' = min l.submitted (k + m)) := by
  induction m generalizing s k with
  | zero =>
    refine ⟨k, Nat.le_refl k, Nat.le_refl k, h,
      (List.drop_eq_nil_of_le (List.length_take_le ..)).symm, fun hs => ?_⟩
    cases h with
    | alive ht => exact (Nat.min_eq_right ht.queue.taken_le).symm
    | dead ho => exact absurd hs (not_survives_of_died ho.queue.died)
  | succ m ih =>
    -- The worker takes one more request, or it stays as it is from here on.
    rcases h.advance with ⟨hnext, hupcoming, hlen⟩ | ⟨hsame, hupcoming, hend⟩
    · obtain ⟨k', hk', hle, hs, htaken, hmin⟩ := ih hnext
      refine ⟨k', Nat.le_of_succ_le hk', by omega, hs, ?_, fun hlives => ?_⟩
      · have hlt : k < (all.take k').length := by
          rw [List.length_take]
          omega
        have htaken : (s.queue.advance engine).taken engine m = _ := htaken
        rw [Queue.taken, htaken, hupcoming, List.drop_eq_getElem_cons hlt, List.getElem_take,
          List.getElem?_eq_getElem hlen]
        rfl
      · rw [hmin hlives]
        congr 1
        omega
    · obtain ⟨k', hk', hle, hs, htaken, hmin⟩ := ih h
      refine ⟨k', hk', Nat.le_succ_of_le hle, ?_, ?_, fun hlives => ?_⟩
      · rw [Session.work, Queue.advanceTimes, hsame]
        exact hs
      · rw [Queue.taken, hupcoming, hsame]
        exact htaken
      · have heq := hend (hlives.take_of_le hk')
        have hmin := hmin hlives
        omega

/-! ## Steps and turns -/

theorem work_of_worker_none (engine : Engine) (h : s.queue.worker = none) (m : Nat) :
    s.work engine m = s ∧ s.queue.taken engine m = [] := by
  have hadvance : s.queue.advance engine = s.queue := Queue.advance_of_worker_none h
  refine ⟨by rw [Session.work, Queue.advanceTimes_of_advance_eq hadvance], ?_⟩
  induction m with
  | zero => rfl
  | succ m ih => rw [Queue.taken, hadvance, ih, Queue.upcoming, h]; rfl

/-- **A client of a dead worker takes every turn**, whatever the pace. -/
theorem Outlives.turn? (h : s.Outlives engine w all l k) {t : Turn}
    (hl : l.step? t.step = some (receipt, l')) :
    ∃ s', s.turn? engine t = some ([], receipt.answer (Worker.trace engine w all), s') ∧
      s'.Outlives engine w all l' k := by
  obtain ⟨pending, s₁, s₂, hstart, hworker, hfinish, hs₂⟩ := h.takes hl
  obtain ⟨hwork, htaken⟩ := work_of_worker_none engine h.queue.worker t.before
  obtain ⟨hwork₁, htaken₁⟩ := work_of_worker_none engine hworker t.during
  refine ⟨s₂, ?_, hs₂⟩
  rw [Session.turn?, hwork, hstart, Option.bind_eq_bind, Option.bind_some]
  simp only [hwork₁, hfinish, htaken, htaken₁]
  rfl

theorem Outlives.turns? (h : s.Outlives engine w all l k) {ts : List Turn}
    {receipts : List Receipt} (hsteps : l.steps? (ts.map (·.step)) = some (receipts, l')) :
    ∃ s', s.turns? engine ts =
        some ([], receipts.map (Receipt.answer (Worker.trace engine w all)), s') ∧
      s'.Outlives engine w all l' k := by
  induction ts generalizing s l receipts with
  | nil =>
    obtain ⟨rfl, rfl⟩ := Prod.mk.inj (Option.some.inj hsteps)
    exact ⟨s, rfl, h⟩
  | cons t ts ih =>
    obtain ⟨receipt, l₁, rest, hstep, hrest, rfl⟩ := Ledger.steps?_cons.1 hsteps
    obtain ⟨s₁, hturn, h₁⟩ := h.turn? hstep
    obtain ⟨s', hturns, hs'⟩ := ih h₁ hrest
    refine ⟨s', ?_, hs'⟩
    rw [turns?_cons_of_some hturn, hturns]
    rfl

/-- **A step goes as the ledger says**, or the client has to wait and the worker does not get far
enough for it. -/
theorem Reaches.takes (h : s.Reaches engine w all l k)
    (hsub : ∀ r, step.submission? = some r → all[l.submitted]? = some r)
    (hl : l.step? step = some (receipt, l')) (patience : Pending → Nat) :
    ∃ pending s₁, s.start? step = some (pending, s₁) ∧
      ((∃ k' s', k ≤ k' ∧ s₁.queue.taken engine (patience pending) = (all.take k').drop k ∧
          (s₁.work engine (patience pending)).finish? pending =
            some (receipt.answer (Worker.trace engine w all), s') ∧
          s'.Reaches engine w all l' k') ∨
        (s₁.work engine (patience pending)).finish? pending = none ∧
          patience pending < all.length ∧ ∀ answer, pending ≠ .done answer) := by
  cases h with
  | dead ho lived =>
    obtain ⟨pending, s₁, s₂, hstart, hworker, hfinish, hs₂⟩ := ho.takes hl
    obtain ⟨hwork, htaken⟩ := work_of_worker_none engine hworker (patience pending)
    refine ⟨pending, s₁, hstart, .inl ⟨k, s₂, Nat.le_refl k, ?_, ?_, .dead hs₂ lived⟩⟩
    · rw [htaken, List.drop_eq_nil_of_le (List.length_take_le ..)]
    · rw [hwork, hfinish]
  | alive ht lives =>
    obtain ⟨pending, s₁, l₁, hstart, h₁, ho⟩ := ht.start? lives hsub hl
    obtain ⟨k', hk', -, h₂, htaken, hmin⟩ :=
      (Reaches.alive h₁ lives).work (patience pending)
    -- Even if the worker dies meanwhile, the step is owed the same answer.
    have ho₂ : pending.Owes all (Worker.trace engine w all) (s₁.work engine (patience pending)) l₁
        (receipt.answer (Worker.trace engine w all)) l' := ho.work (patience pending)
    refine ⟨pending, s₁, hstart, ?_⟩
    cases h₂ with
    | dead ho lived =>
      obtain ⟨s', hfinish, hs'⟩ := ho.finish? ho₂
      exact .inl ⟨k', s', hk', htaken, hfinish, .dead hs' lived⟩
    | alive ht₂ lives₂ =>
      rcases ht₂.finish? lives₂ ho₂ with ⟨s', hfinish, hs'⟩ | ⟨hfinish, hlt⟩
      · exact .inl ⟨k', s', hk', htaken, hfinish, .alive hs' lives₂⟩
      · refine .inr ⟨hfinish, ?_, ?_⟩
        · have hmin := hmin lives₂
          have hle := h₁.queue.accepted_le
          omega
        · rintro answer rfl
          cases hfinish

theorem Reaches.start?_eq_none (h : s.Reaches engine w all l k) (hl : l.step? step = none) :
    s.start? step = none := by
  cases h with
  | alive ht => exact ht.start?_eq_none hl
  | dead ho => exact ho.start?_eq_none hl

/-- **A turn goes as the ledger says**, or the worker does not get far enough for it to end. -/
theorem Reaches.turn? (h : s.Reaches engine w all l k) {t : Turn}
    (hsub : ∀ r, t.step.submission? = some r → all[l.submitted]? = some r)
    (hl : l.step? t.step = some (receipt, l')) :
    (∃ k' s', k ≤ k' ∧ s.turn? engine t = some ((all.take k').drop k,
        receipt.answer (Worker.trace engine w all), s') ∧ s'.Reaches engine w all l' k') ∨
      s.turn? engine t = none ∧ t.during < all.length := by
  obtain ⟨k₀, hk₀, -, h₀, htaken₀, -⟩ := h.work t.before
  obtain ⟨pending, s₁, hstart, ⟨k', s', hk', htaken, hfinish, hs'⟩ | ⟨hfinish, hlt, -⟩⟩ :=
    h₀.takes hsub hl fun _ => t.during
  · refine .inl ⟨k', s', Nat.le_trans hk₀ hk', ?_, hs'⟩
    rw [Session.turn?, hstart, Option.bind_eq_bind, Option.bind_some]
    simp only [hfinish, htaken₀, htaken, drop_take_append all hk₀ hk']
    rfl
  · refine .inr ⟨?_, hlt⟩
    rw [Session.turn?, hstart, Option.bind_eq_bind, Option.bind_some]
    simp only [hfinish]
    rfl

theorem Reaches.turn?_eq_none (h : s.Reaches engine w all l k) {t : Turn}
    (hl : l.step? t.step = none) : s.turn? engine t = none := by
  obtain ⟨k₀, -, -, h₀, -⟩ := h.work t.before
  rw [Session.turn?, h₀.start?_eq_none hl]
  rfl

/-! ## Runs -/

theorem drop_submissions {n : Nat} {steps : List Step}
    (h : all.drop n = submissions (step :: steps)) :
    (∀ r, step.submission? = some r → all[n]? = some r) ∧
      all.drop (n + step.submission?.toList.length) = submissions steps := by
  rw [submissions_cons] at h
  refine ⟨fun r hr => ?_, ?_⟩
  · have hget : all[n]? = (all.drop n)[0]? := by rw [List.getElem?_drop, Nat.add_zero]
    rw [hget, h, hr]
    rfl
  · rw [← List.drop_drop, h, List.drop_left]

/-- **A schedule goes as the ledger says**, or the worker does not get far enough in some turn. -/
theorem Reaches.turns? (h : s.Reaches engine w all l k) {ts : List Turn} {receipts : List Receipt}
    (hl : l.Sound) (hsub : all.drop l.submitted = submissions (ts.map (·.step)))
    (hsteps : l.steps? (ts.map (·.step)) = some (receipts, l')) :
    (∃ k' s', k ≤ k' ∧ s.turns? engine ts = some ((all.take k').drop k,
        receipts.map (Receipt.answer (Worker.trace engine w all)), s') ∧
        s'.Reaches engine w all l' k') ∨
      s.turns? engine ts = none ∧ ∃ t ∈ ts, t.during < all.length := by
  induction ts generalizing s l k receipts with
  | nil =>
    obtain ⟨rfl, rfl⟩ := Prod.mk.inj (Option.some.inj hsteps)
    refine .inl ⟨k, s, Nat.le_refl k, ?_, h⟩
    rw [List.drop_eq_nil_of_le (List.length_take_le ..)]
    rfl
  | cons t ts ih =>
    obtain ⟨receipt, l₁, rest, hstep, hrest, rfl⟩ := Ledger.steps?_cons.1 hsteps
    obtain ⟨hnext, hdrop⟩ := drop_submissions hsub
    rw [← (Ledger.step?_counts [] hl hstep).1] at hdrop
    rcases h.turn? hnext hstep with ⟨k₁, s₁, hk₁, hturn, h₁⟩ | ⟨hturn, hduring⟩
    · rcases ih h₁ (hl.step? hstep) hdrop hrest with
        ⟨k', s', hk', hturns, hs'⟩ | ⟨hturns, u, hu, hlt⟩
      · refine .inl ⟨k', s', Nat.le_trans hk₁ hk', ?_, hs'⟩
        rw [turns?_cons_of_some hturn, hturns, Option.map_some, drop_take_append all hk₁ hk']
        rfl
      · refine .inr ⟨?_, u, List.mem_cons_of_mem _ hu, hlt⟩
        rw [turns?_cons_of_some hturn, hturns, Option.map_none]
    · exact .inr ⟨turns?_cons_of_none hturn, t, List.mem_cons_self, hduring⟩

theorem Reaches.turns?_eq_none (h : s.Reaches engine w all l k) {ts : List Turn} (hl : l.Sound)
    (hsub : all.drop l.submitted = submissions (ts.map (·.step)))
    (hsteps : l.steps? (ts.map (·.step)) = none) : s.turns? engine ts = none := by
  induction ts generalizing s l k with
  | nil => cases hsteps
  | cons t ts ih =>
    obtain ⟨hnext, hdrop⟩ := drop_submissions hsub
    cases hstep : l.step? t.step with
    | none => exact turns?_cons_of_none (h.turn?_eq_none hstep)
    | some x =>
      obtain ⟨receipt, l₁⟩ := x
      rw [← (Ledger.step?_counts [] hl hstep).1] at hdrop
      rcases h.turn? hnext hstep with ⟨k₁, s₁, -, hturn, h₁⟩ | ⟨hturn, -⟩
      · rw [List.map_cons, Ledger.steps?_cons_of_some hstep] at hsteps
        have hrest := Option.map_eq_none_iff.1 hsteps
        rw [turns?_cons_of_some hturn, ih h₁ (hl.step? hstep) hdrop hrest, Option.map_none]
      · exact turns?_cons_of_none hturn

/-! ## What a client is left with -/

theorem Reaches.log (h : s.Reaches engine w all l k) (hl : l.Sound) :
    eventsIn (Worker.trace engine w all) 0 l.reported ++ s.queue.unread =
      eventsIn (Worker.trace engine w all) 0 k := by
  cases h with
  | alive ht => rw [ht.queue.unread, eventsIn_append (Nat.zero_le _) ht.queue.reported_le]
  | dead ho =>
    have hk := Nat.le_trans ho.queue.taken_le ho.queue.accepted_le
    rw [ho.queue.unread, eventsIn_append (Nat.zero_le _) hl.reported_le]
    exact eventsIn_of_died ho.queue.died (Nat.le_refl k) hk (Nat.zero_le k)

/-- **Every ticket is good**: for the response, once the worker is past the request, and for the
news that the worker is dead. -/
theorem Reaches.ticket (h : s.Reaches engine w all l k) {name : String} {ticket : Nat}
    (hl : l.tickets.lookup name = some ticket) : ticket < l.submitted ∧
      ∃ handle, s.handles.lookup name = some handle ∧ (s.receive? handle).map (·.1) =
        if Worker.Survives engine w (all.take k) → ticket < k then
          some (responseIn (Worker.trace engine w all) ticket) else none := by
  have hmem := mem_of_lookup hl
  cases h with
  | alive ht lives =>
    refine ⟨(ht.queue.lookup (ht.held _ hmem)).1, _, by rw [ht.lookup, hl]; rfl, ?_⟩
    rw [ht.receive? lives (ht.held _ hmem)]
    by_cases hk : ticket < k
    · rw [if_pos hk, if_pos fun _ => hk, Option.map_some]
    · rw [if_neg hk, if_neg fun h => hk (h lives), Option.map_none]
  | dead ho =>
    obtain ⟨s', hreceive, -⟩ := ho.receive?_claimFor (ho.held _ hmem)
    refine ⟨ho.issued _ hmem, _, by rw [ho.lookup, hl]; rfl, ?_⟩
    rw [hreceive, if_pos fun lives => absurd lives (not_survives_of_died ho.queue.died)]
    rfl

/-! ## Sessions -/

/-- Only a dead worker refused what stands under a name. -/
theorem Reaches.refused (h : s.Reaches engine w all l k) {name : String} {e : Error}
    (hlookup : s.handles.lookup name = some (.error e)) : s.queue.worker = none := by
  cases h with
  | dead ho => exact ho.queue.worker
  | alive ht =>
    rw [ht.lookup] at hlookup
    cases hl : l.tickets.lookup name <;> simp [hl] at hlookup

theorem Reaches.length_jobs_le (h : s.Reaches engine w all l k) :
    s.queue.jobs.length ≤ all.length := by
  cases h with
  | alive ht =>
    rw [ht.queue.jobs]
    exact length_lined_le ..
  | dead ho => simp [ho.queue.jobs]

/-- A session answers a step as the ledger says. -/
theorem Reaches.step? (h : s.Reaches engine w all l k)
    (hsub : ∀ r, step.submission? = some r → all[l.submitted]? = some r)
    (hl : l.step? step = some (receipt, l')) :
    ∃ k' s', s.step? engine step = some (receipt.answer (Worker.trace engine w all), s') ∧
      s'.Reaches engine w all l' k' := by
  obtain ⟨pending, s₁, hstart, ⟨k', s', -, -, hfinish, hs'⟩ | ⟨-, hlt, hdone⟩⟩ :=
    h.takes hsub hl (Pending.patience (all.length + 1))
  · exact ⟨k', s', step?_of_finish? (fun _ _ => h.refused) (Nat.lt_succ_of_le h.length_jobs_le)
      hstart hfinish, hs'⟩
  · -- The worker caught up with what the client has to wait for.
    cases pending with
    | done answer => exact absurd rfl (hdone answer)
    | _ =>
      simp only [Pending.patience] at hlt
      omega

theorem Reaches.step?_eq_none (h : s.Reaches engine w all l k) (hl : l.step? step = none) :
    s.step? engine step = none :=
  Session.step?_eq_none (h.start?_eq_none hl)

theorem Reaches.final (h : s.Reaches engine w all l k) :
    (if s.queue.isOpen then [Answer.dropped (s.drop engine).1] else []) =
      l.final.map (Receipt.answer (Worker.trace engine w all)) := by
  rw [h.isOpen, Ledger.final]
  by_cases hl : l.isOpen
  · have hstep : l.step? .drop =
        some (.dropped l.reported l.submitted, { l.report with isOpen := false }) := if_pos hl
    obtain ⟨_, _, hstep, -⟩ := h.step? (by simp [Step.submission?]) hstep
    rw [Session.step?, h.isOpen, if_pos hl] at hstep
    rw [if_pos hl, if_pos hl, List.map_singleton]
    simp only [Option.some.injEq, Prod.mk.injEq] at hstep
    rw [hstep.1]
  · rw [if_neg hl, if_neg hl]
    rfl

/-- **A session is answered as the ledger says.** -/
theorem Reaches.run? (h : s.Reaches engine w all l k) {steps : List Step} (hl : l.Sound)
    (hsub : all.drop l.submitted = submissions steps) :
    s.run? engine steps = (l.steps? steps).map fun run =>
      (run.1 ++ run.2.final).map (Receipt.answer (Worker.trace engine w all)) := by
  induction steps generalizing s l k with
  | nil =>
    rw [Session.run?, h.final]
    rfl
  | cons step steps ih =>
    obtain ⟨hnext, hdrop⟩ := drop_submissions hsub
    cases hstep : l.step? step with
    | none =>
      rw [Session.run?, h.step?_eq_none hstep, Ledger.steps?, hstep]
      rfl
    | some x =>
      obtain ⟨receipt, l₁⟩ := x
      rw [← (Ledger.step?_counts [] hl hstep).1] at hdrop
      obtain ⟨k₁, s₁, hs₁, h₁⟩ := h.step? hnext hstep
      rw [Session.run?, hs₁, Ledger.steps?_cons_of_some hstep, Option.bind_eq_bind,
        Option.bind_some]
      simp only [ih h₁ (hl.step? hstep) hdrop]
      cases l₁.steps? steps <;> rfl

/-! ## A worker that survives -/

theorem Tracks.reaches (h : s.Tracks engine w all l k) (hall : Worker.Survives engine w all) :
    s.Reaches engine w all l k :=
  .alive h (hall.take k)

theorem Tracks.work (h : s.Tracks engine w all l k) (hall : Worker.Survives engine w all)
    (m : Nat) :
    (s.work engine m).Tracks engine w all l (min l.submitted (k + m)) ∧
      s.queue.taken engine m = (all.take (min l.submitted (k + m))).drop k := by
  obtain ⟨k', -, -, hs, htaken, hmin⟩ := (h.reaches hall).work m
  rw [← hmin (hall.take k')]
  exact ⟨hs.tracks hall, htaken⟩

theorem Tracks.turns? (h : s.Tracks engine w all l k) (hall : Worker.Survives engine w all)
    {ts : List Turn} {receipts : List Receipt} (hl : l.Sound)
    (hsub : all.drop l.submitted = submissions (ts.map (·.step)))
    (hsteps : l.steps? (ts.map (·.step)) = some (receipts, l')) :
    (∃ k' s', k ≤ k' ∧ s.turns? engine ts = some ((all.take k').drop k,
        receipts.map (Receipt.answer (Worker.trace engine w all)), s') ∧
        s'.Tracks engine w all l' k') ∨
      s.turns? engine ts = none ∧ ∃ t ∈ ts, t.during < all.length := by
  refine ((h.reaches hall).turns? hl hsub hsteps).imp_left ?_
  rintro ⟨k', s', hk', hturns, hs'⟩
  exact ⟨k', s', hk', hturns, hs'.tracks hall⟩

end Session

end Typeset.Compile
