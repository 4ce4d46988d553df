/-
What a client and the compile worker send each other, and how compiling fails.

An answer keeps the text of a failure and its diagnostics, and not its kind.
-/
import Typeset.Compile.PathMap

namespace Typeset.Compile

/-- Binary files by the path that the markup refers to. -/
abbrev Assets := PathMap (List UInt8)

/-- A document to compile. -/
structure Request where
  /-- Chosen by the client, echoed in the answer. -/
  id : String
  /-- The source of the main document. -/
  main : String
  assets : Assets := ∅

/-- The request with an asset set. -/
def Request.withAsset (r : Request) (path : String) (bytes : List UInt8) : Request :=
  { r with assets := r.assets.insert path bytes }

/-- A compiled document. -/
structure Pdf where
  bytes : List UInt8
  /-- What the compiler reported beside it. -/
  diagnostics : List String
  deriving DecidableEq

/-- Why a request gives no document. -/
inductive Error where
  /-- There is no compiler. -/
  | setup (reason : String)
  /-- The compiler gave no document. -/
  | failed (message : String) (diagnostics : List String)
  /-- The worker is gone. -/
  | workerTerminated
  deriving DecidableEq

namespace Error

/-- The text that is shown for a failure. -/
def message : Error → String
  | .setup reason => "Compiler setup failed: " ++ reason
  | .failed message _ => message
  | .workerTerminated => "Compile worker terminated"

def diagnostics : Error → List String
  | .setup _ => []
  | .failed _ diagnostics => diagnostics
  | .workerTerminated => []

end Error

/-- How a request ended, as it is sent. -/
inductive Outcome where
  | ok (pdf : List UInt8) (diagnostics : List String)
  | err (error : String) (diagnostics : List String)
  deriving DecidableEq

namespace Outcome

def ofResult : Except Error Pdf → Outcome
  | .ok pdf => .ok pdf.bytes pdf.diagnostics
  | .error e => .err e.message e.diagnostics

def toResult : Outcome → Except Error Pdf
  | .ok pdf diagnostics => .ok ⟨pdf, diagnostics⟩
  | .err error diagnostics => .error (.failed error diagnostics)

end Outcome

/-- The answer to a request. -/
structure Response where
  id : String
  outcome : Outcome
  deriving DecidableEq

end Typeset.Compile
