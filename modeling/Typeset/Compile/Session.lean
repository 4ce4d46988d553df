/-
A client at work on one queue.

A client keeps its handles under names. It may wait for them in any order,
also after it dropped the queue, and may give them up. A step that names no
handle of its own, and one that needs the queue after that was dropped, is no
step at all.
-/
import Typeset.Compile.Queue

namespace Typeset.Compile

inductive Step where
  /-- Compiles a document, under a fresh id, and waits for it. -/
  | compile (main : String) (assets : Assets) (id : String := "")
  /-- Sends a request and waits for its response. -/
  | request (r : Request)
  /-- Puts a document in line, under a fresh id. -/
  | submit (name main : String) (assets : Assets) (id : String := "")
  /-- Puts a request in line. -/
  | submitRequest (name : String) (r : Request)
  | wait (name : String)
  /-- Gives a handle up. -/
  | forget (name : String)
  /-- Drops the queue. -/
  | drop

inductive Answer where
  | compiled (result : Except Error Pdf) (events : List Event)
  | responded (response : Except Error Response) (events : List Event)
  | submitted
  /-- The id of the handle. -/
  | submittedAs (id : String)
  | waited (result : Except Error Pdf)
  | forgotten
  | dropped (events : List Event)

/-- A client between two steps. -/
structure Session where
  queue : Queue
  /-- Handles by name. Where a request was refused, waiting tells why. -/
  handles : List (String × Except Error Handle) := []

/-- The document of a response. -/
def Response.result (r : Except Error Response) : Except Error Pdf :=
  r.bind fun response => response.outcome.toResult

namespace Session

/-- Gives up what stands under a name. -/
def release (s : Session) (name : String) : Session :=
  match s.handles.lookup name with
  | some (.ok h) => ⟨s.queue.forget h, s.handles.filter (·.1 != name)⟩
  | _ => { s with handles := s.handles.filter (·.1 != name) }

/-- Puts a request in line and keeps its handle. -/
def submit (s : Session) (name : String) (r : Request) : Session :=
  let s := s.release name
  let (handle, queue) := s.queue.submit r
  ⟨queue, (name, handle) :: s.handles⟩

/-- The events that the client did not see yet. -/
def readEvents (s : Session) : List Event × Session :=
  let (events, queue) := s.queue.readEvents
  (events, { s with queue })

/-- Sends a request, waits for the response and reads the events. -/
def request (engine : Engine) (s : Session) (r : Request) :
    Except Error Response × List Event × Session :=
  let (response, queue) := s.queue.request engine r
  (response, ({ s with queue } : Session).readEvents)

/-- The response under a name. -/
def wait? (engine : Engine) (s : Session) (name : String) :
    Option (Except Error Response × Session) :=
  (s.handles.lookup name).map fun
    | .ok h =>
      let (response, queue) := s.queue.wait engine h
      (response, ⟨queue, s.handles.filter (·.1 != name)⟩)
    | .error e => (.error e, s.release name)

/-- Drops the queue and reads the last events. -/
def drop (engine : Engine) (s : Session) : List Event × Session :=
  ({ s with queue := s.queue.close engine } : Session).readEvents

/-- Takes a step, if the session allows it. -/
def step? (engine : Engine) (s : Session) : Step → Option (Answer × Session)
  | .compile main assets id =>
    if s.queue.isOpen then
      let (response, events, s) := s.request engine { id, main, assets }
      some (.compiled (Response.result response) events, s)
    else none
  | .request r =>
    if s.queue.isOpen then
      let (response, events, s) := s.request engine r
      some (.responded response events, s)
    else none
  | .submit name main assets id =>
    if s.queue.isOpen then some (.submitted, s.submit name { id, main, assets }) else none
  | .submitRequest name r =>
    if s.queue.isOpen then some (.submittedAs r.id, s.submit name r) else none
  | .wait name =>
    (s.wait? engine name).map fun (response, s) => (.waited (Response.result response), s)
  | .forget name =>
    if (s.handles.lookup name).isSome then some (.forgotten, s.release name) else none
  | .drop =>
    if s.queue.isOpen then
      let (events, s) := s.drop engine
      some (.dropped events, s)
    else none

/-- The answers to steps, with that of dropping the queue if no step did. -/
def run? (engine : Engine) (s : Session) : List Step → Option (List Answer)
  | [] => some (if s.queue.isOpen then [.dropped (s.drop engine).1] else [])
  | step :: steps => do
    let (answer, s) ← s.step? engine step
    return answer :: (← run? engine s steps)

end Session

end Typeset.Compile
