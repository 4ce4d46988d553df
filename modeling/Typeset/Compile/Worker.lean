/-
The worker that owns the compiler.

A compiler is created for the first request, receives the templates at once
and serves the requests that follow. It is replaced by one with more fonts for
the first document that needs them. Where no compiler can be created the
request fails, and the next one tries again.
-/
import Typeset.Compile.Compiler
import Typeset.Template
import Typeset.Text.Lines

namespace Typeset.Compile

/-- A worker between two requests. -/
structure Worker where
  templates : List TemplateFile
  /-- How the coming attempts to create a compiler end: by a failure with its reason or, as every
  attempt after the last entry does, well. -/
  attempts : List (Option String) := []
  loaded : Option Compiler := none

namespace Worker

/-- Creates a compiler and registers the templates. -/
def load (w : Worker) (cjk : Bool) : List Event × Worker × Except Error Compiler :=
  let rest := { w with attempts := w.attempts.tail, loaded := none }
  match w.attempts.head?.join with
  | some reason => ([.create cjk false], rest, .error (.setup reason))
  | none =>
    let compiler := ({ cjk } : Compiler).addTemplates w.templates
    (.create cjk true :: w.templates.map (fun t => .source t.path t.text),
      { rest with loaded := some compiler }, .ok compiler)

/-- The compiler for a document, the loaded one if that has the fonts. -/
def acquire (w : Worker) (cjk : Bool) : List Event × Worker × Except Error Compiler :=
  match w.loaded with
  | some compiler => if compiler.cjk || !cjk then ([], w, .ok compiler) else w.load cjk
  | none => w.load cjk

/-- The events of registering and compiling a request. -/
def requestEvents (r : Request) : List Event :=
  .source Compiler.mainPath r.main :: r.assets.entries.map (fun a => .asset a.1 a.2)
    ++ [.compile Compiler.mainPath]

/-- What a finished run means for the request. -/
def resultOf (artifact : Option (List UInt8)) (diagnostics : List String) : Except Error Pdf :=
  match artifact with
  | some bytes => .ok ⟨bytes, diagnostics⟩
  | none =>
    let message := if diagnostics.isEmpty then "Typst compilation failed (no diagnostics)"
      else Text.joinWith "\n" diagnostics
    .error (.failed message diagnostics)

/-- Serves a request: what happened, and the response with the worker that is left, none where the
compiler panicked. -/
def process (engine : Engine) (w : Worker) (r : Request) :
    List Event × Option (Response × Worker) :=
  match w.acquire (Text.containsCjk r.main) with
  | (events, w, .error e) => (events, some (⟨r.id, .ofResult (.error e)⟩, w))
  | (events, w, .ok compiler) =>
    let compiler := compiler.addRequest r
    (events ++ requestEvents r,
      match engine compiler Compiler.mainPath with
      | .panicked => none
      | .finished artifact diagnostics =>
        let result := resultOf artifact diagnostics
        some (⟨r.id, .ofResult result⟩,
          { w with loaded := some (compiler.ran Compiler.mainPath) }))

theorem process_of_error {engine : Engine} {w left : Worker} {r : Request} {events : List Event}
    {e : Error} (h : w.acquire (Text.containsCjk r.main) = (events, left, .error e)) :
    w.process engine r = (events, some (⟨r.id, .ofResult (.error e)⟩, left)) := by
  rw [process, h]

theorem process_of_ok {engine : Engine} {w left : Worker} {r : Request} {events : List Event}
    {c : Compiler} (h : w.acquire (Text.containsCjk r.main) = (events, left, .ok c)) :
    w.process engine r = (events ++ requestEvents r,
      match engine (c.addRequest r) Compiler.mainPath with
      | .panicked => none
      | .finished artifact diagnostics =>
        some (⟨r.id, .ofResult (resultOf artifact diagnostics)⟩,
          { left with loaded := some ((c.addRequest r).ran Compiler.mainPath) })) := by
  rw [process, h]

/-- The files of the templates that come with a source, at their paths from the root. -/
def templateFiles (r : TemplateRegistry) : List TemplateFile :=
  r.templates.filterMap fun t => (Template.bundledSource? t.id).map (⟨"/" ++ t.path, ·⟩)

end Worker

end Typeset.Compile
