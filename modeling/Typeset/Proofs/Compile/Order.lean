/-
Clients are served in order.

Whatever a client does with a new queue and whatever the worker's pace, its
requests are processed once each and in the order of submission, every handle
gets the response to its own request, and the log is that of a worker who is
alone with the requests. When a client waits for a handle, or that it gave one
up, shows nowhere else.

All this is read off the ledger: sessions and schedules answer what it says.
-/
import Typeset.Compile.Scripted
import Typeset.Proofs.Compile.Schedule

namespace Typeset.Compile

namespace Session

/-- A client that comes to a new queue. -/
def start (templates : List TemplateFile) (attempts : List (Option String)) : Session :=
  { queue := Queue.start templates attempts }

variable {engine : Engine} {templates : List TemplateFile} {attempts : List (Option String)}
  {all : List Request} {w : Option Worker} {s : Session} {l : Ledger} {k : Nat}

theorem tracks_start (engine : Engine) (templates : List TemplateFile)
    (attempts : List (Option String)) (all : List Request) :
    (start templates attempts).Tracks engine (some { templates, attempts }) all {} 0 where
  queue := {
    reported_le := Nat.le_refl 0
    taken_le := Nat.le_refl 0
    accepted_le := Nat.zero_le _
    worker := rfl
    accepted := rfl
    jobs := rfl
    mailboxes := fun m hm => by cases hm
    unread := rfl }
  isOpen := rfl
  handles := rfl
  held := fun t ht => by cases ht
  distinct := List.nodup_nil

/-- **A handle that a client holds**, where the worker took some of all requests: it is for one of
them and carries its id, and what is received for it, once the worker is past that request, is the
one response that was sent to it, under the same id. -/
def Delivers (engine : Engine) (all : List Request) (served : Served) (s : Session) (taken : Nat)
    (handle : Except Error Handle) : Prop :=
  ∃ h r response, handle = .ok h ∧ all[h.ticket]? = some r ∧ h.id = r.id ∧
    sentIn served h.ticket = some response ∧ response.id = r.id ∧
    ∀ n, ((s.work engine n).receive? handle).map (·.1) =
      if h.ticket < taken + n then some (.ok response) else none

/-- **Where a schedule leaves a client**: the requests that the worker took, the answers, and the
session. -/
structure Keeps (engine : Engine) (all : List Request) (served : Served) (taken : List Request)
    (answers : List Answer) (left : Session) : Prop where
  /-- However often the worker goes on, it takes each request once and in the order of submission. -/
  in_order : ∀ n, taken ++ left.queue.taken engine n = all.take (taken.length + n)
  /-- Once the queue is dropped, nothing is left in line. -/
  drained : left.queue.isOpen = false → taken = all
  /-- The segments of the log that were read, and what is unread, are the log of the requests that
  were taken. -/
  log : answers.flatMap Answer.events ++ left.queue.unread =
    (served.take taken.length).flatMap (·.1)
  /-- Every handle is good for the response to its own request, also after the drop. -/
  handles : ∀ name handle, left.handles.lookup name = some handle →
    Delivers engine all served left taken.length handle

theorem Tracks.delivers (h : s.Tracks engine w all l k) (hall : Worker.Survives engine w all)
    (hsubmitted : l.submitted = all.length) {name : String} {handle : Except Error Handle}
    (hlookup : s.handles.lookup name = some handle) :
    Delivers engine all (Worker.trace engine w all) s k handle := by
  rw [h.lookup] at hlookup
  obtain ⟨ticket, hticket, rfl⟩ := Option.map_eq_some_iff.1 hlookup
  have hmem := mem_of_lookup hticket
  have hlt : ticket < all.length := hsubmitted ▸ (h.queue.lookup (h.held _ hmem)).1
  have hr := List.getElem?_eq_getElem hlt
  obtain ⟨response, hsent, hid⟩ := Queue.exists_sentIn hall hr
  refine ⟨handleFor all ticket, all[ticket], response, rfl, hr, by rw [handleFor_eq hr], hsent, hid,
    fun n => ?_⟩
  have hwork := (h.work hall n).1
  rw [hwork.receive? (hall.take _) (hwork.held _ hmem)]
  have hiff : ticket < min l.submitted (k + n) ↔ ticket < k + n := by omega
  have hticket : (handleFor all ticket).ticket = ticket := rfl
  simp only [hiff, hticket]
  by_cases hk : ticket < k + n
  · rw [if_pos hk, if_pos hk, Option.map_some, responseIn, hsent]
  · rw [if_neg hk, if_neg hk, Option.map_none]

theorem Tracks.keeps (h : s.Tracks engine w all l k) (hall : Worker.Survives engine w all)
    (hl : l.Sound) (hsubmitted : l.submitted = all.length) {answers : List Answer}
    (hevents : answers.flatMap Answer.events =
      eventsIn (Worker.trace engine w all) 0 l.reported) :
    Keeps engine all (Worker.trace engine w all) (all.take k) answers s := by
  have hk : k ≤ all.length := hsubmitted ▸ h.queue.taken_le
  have hlen : (all.take k).length = k := List.length_take_of_le hk
  refine ⟨fun n => ?_, fun hclosed => ?_, ?_, fun name handle hlookup => ?_⟩
  · have hle : k ≤ min l.submitted (k + n) := Nat.le_min.2 ⟨h.queue.taken_le, Nat.le_add_right ..⟩
    have happend := drop_take_append all (Nat.zero_le k) hle
    rw [List.drop_zero, List.drop_zero] at happend
    rw [(h.work hall n).2, happend, hlen, hsubmitted, ← List.take_take]
    exact List.take_of_length_le (List.length_take_le' ..)
  · have hreported := hl.closed (h.isOpen ▸ hclosed)
    have hle := h.queue.reported_le
    exact List.take_of_length_le (by omega)
  · rw [hevents, h.queue.unread, eventsIn_append (Nat.zero_le _) h.queue.reported_le, hlen]
    rfl
  · rw [hlen]
    exact h.delivers hall hsubmitted hlookup

/-- **Two clients with the same steps but for waiting and forgetting** are answered the same: on
every other step, and where both wait for the same request. -/
structure SameElsewhere (steps steps' : List Step) (answers answers' : List Answer) : Prop where
  others : answers'.filter (!·.isHandling) = answers.filter (!·.isHandling)
  events : answers'.flatMap Answer.events = answers.flatMap Answer.events
  waits : ∃ receipts l receipts' l', ({} : Ledger).steps? steps = some (receipts, l) ∧
    ({} : Ledger).steps? steps' = some (receipts', l') ∧
    ∀ (i j ticket : Nat), receipts[i]? = some (.waited ticket) →
      receipts'[j]? = some (.waited ticket) → answers[i]? = answers'[j]?

theorem sameElsewhere (served : Served) (rest : List Receipt) {steps steps' : List Step}
    {receipts receipts' : List Receipt} {l l' : Ledger}
    (hsteps : steps'.filter (!·.isHandling) = steps.filter (!·.isHandling))
    (h : ({} : Ledger).steps? steps = some (receipts, l))
    (h' : ({} : Ledger).steps? steps' = some (receipts', l')) :
    SameElsewhere steps steps' ((receipts ++ rest).map (Receipt.answer served))
      ((receipts' ++ rest).map (Receipt.answer served)) := by
  have hothers := (Ledger.steps?_undisturbed hsteps h h').1
  have hanswers (receipts : List Receipt) :
      ((receipts ++ rest).map (Receipt.answer served)).filter (!·.isHandling) =
        (receipts.filter (!·.isHandling)).map (Receipt.answer served) ++
          (rest.filter (!·.isHandling)).map (Receipt.answer served) := by
    rw [List.filter_map, List.filter_append, List.map_append]
    simp [Function.comp_def]
  have hsame : ((receipts' ++ rest).map (Receipt.answer served)).filter (!·.isHandling) =
      ((receipts ++ rest).map (Receipt.answer served)).filter (!·.isHandling) := by
    rw [hanswers, hanswers, hothers]
  refine ⟨hsame, ?_, receipts, l, receipts', l', h, h', fun i j ticket hi hj => ?_⟩
  · rw [← flatMap_events_filter, hsame, flatMap_events_filter]
  · have hlt := (List.getElem?_eq_some_iff.1 hi).1
    have hlt' := (List.getElem?_eq_some_iff.1 hj).1
    rw [List.getElem?_map, List.getElem?_map, List.getElem?_append_left hlt,
      List.getElem?_append_left hlt', hi, hj]

/-! ## The theorem -/

/-- **Every client is served in order**, at any pace of the worker. The trace is that of the
client's requests, served one after another. -/
structure ServedInOrder (engine : Engine) (new : Session) (served : Served) (steps : List Step) :
    Prop where
  /-- Every request is sent one response, under its own id. -/
  own : ∀ i r, (submissions steps)[i]? = some r →
    ∃ response, sentIn served i = some response ∧ response.id = r.id
  /-- A step that submits gets the next ticket, which is the place of its own request. -/
  ticket : ∀ before step behind r, steps = before ++ step :: behind → step.submission? = some r →
    (submissions steps)[(submissions before).length]? = some r ∧
    ∀ receipts l, ({} : Ledger).steps? before = some (receipts, l) →
      l.submitted = (submissions before).length
  /-- At any pace, the answers are those of the ledger, and the requests are taken in order. -/
  paced : ∀ ts taken answers left, ts.map Turn.step = steps →
    new.turns? engine ts = some (taken, answers, left) →
    Keeps engine (submissions steps) served taken answers left ∧
      ∃ receipts l, ({} : Ledger).steps? steps = some (receipts, l) ∧
        answers = receipts.map (Receipt.answer served)
  /-- No step waits for ever: the worker only has to get far enough. -/
  progress : ∀ ts, ts.map Turn.step = steps →
    (∀ t ∈ ts, (submissions steps).length ≤ t.during) →
    (({} : Ledger).steps? steps).isSome → (new.turns? engine ts).isSome
  /-- The answers of a session, with that to the drop in the end, are those of the ledger. -/
  session : new.run? engine steps = (({} : Ledger).steps? steps).map fun run =>
    (run.1 ++ run.2.final).map (Receipt.answer served)
  /-- The segments of a session are the whole log. -/
  log : ∀ answers, new.run? engine steps = some answers →
    answers.flatMap Answer.events = served.flatMap (·.1)
  /-- Waiting and forgetting elsewhere, or not at all, changes nothing else at any pace. -/
  undisturbed : ∀ ts ts' taken taken' answers answers' left left', ts.map Turn.step = steps →
    (ts'.map Turn.step).filter (!·.isHandling) = steps.filter (!·.isHandling) →
    new.turns? engine ts = some (taken, answers, left) →
    new.turns? engine ts' = some (taken', answers', left') →
    SameElsewhere steps (ts'.map Turn.step) answers answers'
  /-- Nor does it in a session. -/
  undisturbed_session : ∀ steps' answers answers',
    steps'.filter (!·.isHandling) = steps.filter (!·.isHandling) →
    new.run? engine steps = some answers → new.run? engine steps' = some answers' →
    SameElsewhere steps steps' answers answers'

theorem reaches_start (engine : Engine) (templates : List TemplateFile)
    (attempts : List (Option String)) (all : List Request) :
    (start templates attempts).Reaches engine (some { templates, attempts }) all {} 0 :=
  .alive (tracks_start engine templates attempts all) rfl

/-- What a schedule on a new queue comes to, whether the worker survives it or not. -/
theorem reaches_of_turns? {ts : List Turn} {taken : List Request} {answers : List Answer}
    {left : Session} (hsub : submissions (ts.map Turn.step) = all)
    (h : (start templates attempts).turns? engine ts = some (taken, answers, left)) :
    ∃ receipts l k, ({} : Ledger).steps? (ts.map Turn.step) = some (receipts, l) ∧
      answers = receipts.map
        (Receipt.answer (Worker.trace engine (some { templates, attempts }) all)) ∧
      taken = all.take k ∧ left.Reaches engine (some { templates, attempts }) all l k := by
  have hstart := reaches_start engine templates attempts all
  cases hl : ({} : Ledger).steps? (ts.map Turn.step) with
  | none =>
    rw [hstart.turns?_eq_none Ledger.sound_empty hsub.symm hl] at h
    cases h
  | some run =>
    obtain ⟨receipts, l⟩ := run
    rcases hstart.turns? Ledger.sound_empty hsub.symm hl with
      ⟨k, s', -, hturns, hs'⟩ | ⟨hturns, -⟩
    · rw [hturns] at h
      obtain ⟨rfl, rfl, rfl⟩ : _ ∧ _ ∧ _ := by simpa using h
      exact ⟨receipts, l, k, rfl, rfl, rfl, hs'⟩
    · rw [hturns] at h
      cases h

/-- What a schedule on a new queue comes to, where the worker survives it. -/
theorem turns?_start {ts : List Turn} {taken : List Request} {answers : List Answer}
    {left : Session} (hall : Worker.Survives engine (some { templates, attempts }) all)
    (hsub : submissions (ts.map Turn.step) = all)
    (h : (start templates attempts).turns? engine ts = some (taken, answers, left)) :
    ∃ receipts l k, ({} : Ledger).steps? (ts.map Turn.step) = some (receipts, l) ∧
      answers = receipts.map
        (Receipt.answer (Worker.trace engine (some { templates, attempts }) all)) ∧
      taken = all.take k ∧ left.Tracks engine (some { templates, attempts }) all l k := by
  obtain ⟨receipts, l, k, hsteps, hanswers, htaken, hleft⟩ := reaches_of_turns? hsub h
  exact ⟨receipts, l, k, hsteps, hanswers, htaken, hleft.tracks hall⟩

theorem run?_start {steps : List Step}
    (hall : Worker.Survives engine (some { templates, attempts }) all)
    (hsub : submissions steps = all) :
    (start templates attempts).run? engine steps = (({} : Ledger).steps? steps).map fun run =>
      (run.1 ++ run.2.final).map
        (Receipt.answer (Worker.trace engine (some { templates, attempts }) all)) :=
  ((tracks_start engine templates attempts all).reaches hall).run? Ledger.sound_empty hsub.symm

/-- **Requests are served in order and every handle is good**, where the compiler panics on none of
the requests: for every client, every list of templates and every outcome of creating compilers. -/
theorem served_in_order (engine : Engine) (templates : List TemplateFile)
    (attempts : List (Option String)) (steps : List Step)
    (hall : Worker.Survives engine (some { templates, attempts }) (submissions steps)) :
    ServedInOrder engine (start templates attempts)
      (Worker.trace engine (some { templates, attempts }) (submissions steps)) steps := by
  have hfilter (steps' : List Step)
      (h : steps'.filter (!·.isHandling) = steps.filter (!·.isHandling)) :
      submissions steps' = submissions steps := by
    rw [← submissions_filter, h, submissions_filter]
  refine ⟨fun i r hr => Queue.exists_sentIn hall hr, ?_, ?_, ?_, run?_start hall rfl, ?_, ?_, ?_⟩
  · rintro before step behind r rfl hr
    refine ⟨getElem?_submissions hr, fun receipts l hsteps => ?_⟩
    have hcounts := Ledger.steps?_counts [] Ledger.sound_empty hsteps
    rw [hcounts.2.1, Nat.zero_add]
  · rintro ts taken answers left rfl hturns
    obtain ⟨receipts, l, k, hsteps, rfl, rfl, hleft⟩ := turns?_start hall rfl hturns
    obtain ⟨hsound, hsubmitted, -, hevents⟩ := Ledger.steps?_counts _ Ledger.sound_empty hsteps
    refine ⟨hleft.keeps hall hsound ?_ ?_, receipts, l, hsteps, rfl⟩
    · rw [hsubmitted, Nat.zero_add]
    · rw [List.flatMap_map]
      exact hevents
  · rintro ts rfl hduring hsome
    obtain ⟨⟨receipts, l⟩, hsteps⟩ := Option.isSome_iff_exists.1 hsome
    rcases (tracks_start engine templates attempts _).turns? hall Ledger.sound_empty rfl hsteps with
      ⟨_, _, -, hturns, -⟩ | ⟨-, t, ht, hlt⟩
    · rw [hturns]
      rfl
    · exact absurd (hduring t ht) (Nat.not_le.2 hlt)
  · intro answers hanswers
    rw [run?_start hall rfl] at hanswers
    obtain ⟨⟨receipts, l⟩, hsteps, rfl⟩ := Option.map_eq_some_iff.1 hanswers
    exact Ledger.flatMap_events_final hsteps Worker.length_trace
  · rintro ts ts' taken taken' answers answers' left left' rfl hcore hturns hturns'
    obtain ⟨receipts, l, k, hsteps, rfl, -, -⟩ := turns?_start hall rfl hturns
    obtain ⟨receipts', l', k', hsteps', rfl, -, -⟩ := turns?_start hall (hfilter _ hcore) hturns'
    have hsame := fun served => sameElsewhere served [] hcore hsteps hsteps'
    simp only [List.append_nil] at hsame
    exact hsame _
  · intro steps' answers answers' hcore hanswers hanswers'
    rw [run?_start hall rfl] at hanswers
    rw [run?_start hall (hfilter _ hcore)] at hanswers'
    obtain ⟨⟨receipts, l⟩, hsteps, rfl⟩ := Option.map_eq_some_iff.1 hanswers
    obtain ⟨⟨receipts', l'⟩, hsteps', rfl⟩ := Option.map_eq_some_iff.1 hanswers'
    have hfinal := (Ledger.steps?_undisturbed hcore hsteps hsteps').2
    simp only [hfinal]
    exact sameElsewhere _ _ hcore hsteps hsteps'

/-- Two documents in line, the second received first, and the first after the drop. -/
def errands : List Step :=
  [.submit "a" "x" ∅ "first", .submitRequest "b" { id := "second", main := "y" }, .wait "b", .drop,
    .wait "a"]

/-- The wait gives the second document, and the drop tells what was done for both of them. -/
theorem served_in_order_errands :
    Worker.Survives scripted (some { templates := [], attempts := [] }) (submissions errands) ∧
    (({} : Ledger).steps? errands).isSome ∧
    ServedInOrder scripted (start [] [])
      (Worker.trace scripted (some { templates := [], attempts := [] }) (submissions errands))
      errands ∧
    ∃ answers, (start [] []).run? scripted errands = some answers ∧
      answers[2]? = some (.waited (.ok ⟨"y".toUTF8.toList, ["sources=/main.typ", "assets="]⟩)) ∧
      answers[3]? = some (.dropped
        [.create false true, .source "/main.typ" "x", .compile "/main.typ",
          .source "/main.typ" "y", .compile "/main.typ"]) := by
  have hall : Worker.Survives scripted (some { templates := [], attempts := [] })
      (submissions errands) := by decide +kernel
  have hserved := served_in_order scripted [] [] errands hall
  have hsent : sentIn (Worker.trace scripted (some { templates := [], attempts := [] })
      (submissions errands)) 1 =
        some ⟨"second", .ok "y".toUTF8.toList ["sources=/main.typ", "assets="]⟩ := by
    decide +kernel
  have hevents : eventsIn (Worker.trace scripted (some { templates := [], attempts := [] })
      (submissions errands)) 0 2 =
        [.create false true, .source "/main.typ" "x", .compile "/main.typ",
          .source "/main.typ" "y", .compile "/main.typ"] := by decide +kernel
  refine ⟨hall, by decide +kernel, hserved, _, hserved.session.trans rfl, ?_, ?_⟩
  · change some (Answer.waited (Response.result (responseIn _ 1))) = _
    rw [responseIn, hsent]
    rfl
  · exact congrArg (some ∘ Answer.dropped) hevents

end Session

end Typeset.Compile
