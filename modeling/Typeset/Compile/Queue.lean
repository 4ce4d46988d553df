/-
The queue between clients and the worker.

Requests wait in line, and the worker takes them one by one at moments of its
own. A response goes into the mailbox of its handle, if the client still holds
that. When the compiler panics the worker dies: what waits in line is lost,
its handles never receive anything, and nothing more is accepted.
-/
import Typeset.Compile.Worker

namespace Typeset.Compile

/-- A client's claim to the response of one request. -/
structure Handle where
  /-- The id of the request. -/
  id : String
  /-- How many requests were accepted before it. -/
  ticket : Nat

/-- A request in line. -/
structure Job where
  ticket : Nat
  request : Request

structure Queue where
  /-- The worker, none once its compiler panicked. -/
  worker : Option Worker
  /-- Whether the queue still takes requests. -/
  isOpen : Bool := true
  /-- How many requests were accepted. -/
  accepted : Nat := 0
  jobs : List Job := []
  /-- The handles that clients hold, by ticket, each with its response once that was sent. -/
  mailboxes : List (Nat × Option Response) := []
  /-- The events that were not read yet. -/
  unread : List Event := []

namespace Queue

/-- A queue whose compilers receive the templates. -/
def start (templates : List TemplateFile) (attempts : List (Option String)) : Queue :=
  { worker := some { templates, attempts } }

/-- A queue whose compilers receive what the templates of a registry come with. -/
def ofRegistry (r : TemplateRegistry) (attempts : List (Option String)) : Queue :=
  start (Worker.templateFiles r) attempts

/-- Puts a request in line. -/
def submit (q : Queue) (r : Request) : Except Error Handle × Queue :=
  if q.isOpen && q.worker.isSome then
    (.ok ⟨r.id, q.accepted⟩,
      { q with
        accepted := q.accepted + 1
        jobs := q.jobs ++ [⟨q.accepted, r⟩]
        mailboxes := (q.accepted, none) :: q.mailboxes })
  else (.error .workerTerminated, q)

/-- Puts a response into a mailbox that is still held. -/
def deliver (mailboxes : List (Nat × Option Response)) (ticket : Nat) (r : Response) :
    List (Nat × Option Response) :=
  mailboxes.map fun m => if m.1 = ticket then (m.1, some r) else m

/-- The worker takes the next request, if there is one. -/
def advance (engine : Engine) (q : Queue) : Queue :=
  match q.worker, q.jobs with
  | some worker, job :: jobs =>
    let (events, left) := worker.process engine job.request
    match left with
    | some (response, worker) =>
      { q with
        worker := some worker
        jobs
        mailboxes := deliver q.mailboxes job.ticket response
        unread := q.unread ++ events }
    | none => { q with worker := none, jobs := [], unread := q.unread ++ events }
  | _, _ => q

/-- The worker takes requests as long as there are any, at most `n` of them. -/
def advanceTimes (engine : Engine) : Nat → Queue → Queue
  | 0, q => q
  | n + 1, q => advanceTimes engine n (q.advance engine)

/-- The worker serves every request in line. -/
def settle (engine : Engine) (q : Queue) : Queue := advanceTimes engine q.jobs.length q

/-- Gives a handle up. Its response, if there will be one, reaches nobody. -/
def forget (q : Queue) (h : Handle) : Queue :=
  { q with mailboxes := q.mailboxes.filter (·.1 != h.ticket) }

/-- Waits for the response of a handle, and gives the handle up. -/
def wait (engine : Engine) (q : Queue) (h : Handle) : Except Error Response × Queue :=
  let q := q.settle engine
  (match q.mailboxes.lookup h.ticket with
    | some (some response) => .ok response
    | _ => .error .workerTerminated,
   q.forget h)

/-- Puts a request in line and waits for its response. -/
def request (engine : Engine) (q : Queue) (r : Request) : Except Error Response × Queue :=
  match q.submit r with
  | (.ok h, q) => q.wait engine h
  | (.error e, q) => (.error e, q)

/-- Closes the queue, once the requests in line are served. -/
def close (engine : Engine) (q : Queue) : Queue :=
  { q.settle engine with isOpen := false }

/-- The events that were not read yet, and the queue after they are. -/
def readEvents (q : Queue) : List Event × Queue := (q.unread, { q with unread := [] })

end Queue

end Typeset.Compile
