/-
A compiler and the files registered with it.

A compiler holds sources and assets by path, and what is registered again
replaces what was there. How it turns them into a document is a parameter, and
may depend on all that was done to the compiler before.
-/
import Typeset.Compile.Message

namespace Typeset

namespace Text

/-- First and last code point of each range that needs a font for Chinese, Japanese or Korean text:
punctuation, kana, the unified ideographs with extensions A and B, Hangul syllables, compatibility
ideographs and the full-width forms. -/
def cjkRanges : List (Nat × Nat) :=
  [(0x3000, 0x303F), (0x3040, 0x30FF), (0x3400, 0x4DBF), (0x4E00, 0x9FFF),
   (0xAC00, 0xD7AF), (0xF900, 0xFAFF), (0xFF00, 0xFFEF), (0x20000, 0x2A6DF)]

/-- A character in one of these ranges. -/
def isCjk (c : Char) : Bool :=
  cjkRanges.any fun (first, last) => first ≤ c.toNat && c.toNat ≤ last

/-- Whether any character of a text needs such a font. -/
def containsCjk (s : String) : Bool :=
  s.toList.any isCjk

end Text

namespace Compile

/-- What happens to compilers, in order. -/
inductive Event where
  /-- An attempt to create a compiler. -/
  | create (cjk ok : Bool)
  | source (path text : String)
  | asset (path : String) (bytes : List UInt8)
  | compile (path : String)
  deriving DecidableEq

namespace Event

/-- A line of the log. Of a source it tells the number of characters, of an asset that of bytes. -/
def line : Event → String
  | .create cjk ok => "create cjk=" ++ toString cjk ++ " ok=" ++ toString ok
  | .source path text => "source " ++ path ++ " " ++ toString text.length
  | .asset path bytes => "asset " ++ path ++ " " ++ toString bytes.length
  | .compile path => "compile " ++ path

end Event

/-- What there is to compile with. -/
structure Files where
  /-- Whether there are fonts for Chinese, Japanese and Korean text. -/
  cjk : Bool
  sources : PathMap String := ∅
  assets : Assets := ∅

/-- A compiler with its files. -/
structure Compiler extends Files where
  /-- All that was done to it since it was created. -/
  calls : List Event := []

/-- What one run gives. -/
inductive Verdict where
  /-- The document, if there is one, and the diagnostics. -/
  | finished (artifact : Option (List UInt8)) (diagnostics : List String)
  | panicked

/-- What a compiler makes of its files, given the path of the main document. It may keep a state
between runs: what it was called with before is there to be read. -/
abbrev Engine := Compiler → String → Verdict

/-- An engine that keeps a state: where a new compiler starts, and what every call makes of it. -/
def Engine.ofState {σ : Type} (start : Bool → σ) (next : σ → Event → σ)
    (run : σ → Files → String → Verdict) : Engine := fun c path =>
  run (c.calls.foldl next (start c.cjk)) c.toFiles path

/-- The files and fonts decide what the engine makes of them, whatever came before. -/
def Engine.ReadsFiles (engine : Engine) : Prop :=
  ∀ (c d : Compiler) (path : String), c.toFiles = d.toFiles → engine c path = engine d path

/-- A template file that every new compiler receives. -/
structure TemplateFile where
  path : String
  text : String

namespace Compiler

def addSource (c : Compiler) (path text : String) : Compiler :=
  { c with sources := c.sources.insert path text, calls := c.calls ++ [.source path text] }

def addAsset (c : Compiler) (path : String) (bytes : List UInt8) : Compiler :=
  { c with assets := c.assets.insert path bytes, calls := c.calls ++ [.asset path bytes] }

/-- The compiler behind a run. -/
def ran (c : Compiler) (path : String) : Compiler :=
  { c with calls := c.calls ++ [.compile path] }

/-- The compiler with every template registered in turn. -/
def addTemplates (c : Compiler) (templates : List TemplateFile) : Compiler :=
  templates.foldl (fun c t => c.addSource t.path t.text) c

/-- The path of the main document. -/
def mainPath : String := "/main.typ"

/-- The compiler with the files of a request. -/
def addRequest (c : Compiler) (r : Request) : Compiler :=
  r.assets.entries.foldl (fun c a => c.addAsset a.1 a.2) (c.addSource mainPath r.main)

variable {c : Compiler} {r : Request}

theorem toFiles_addTemplates (c : Compiler) (templates : List TemplateFile) :
    (c.addTemplates templates).toFiles =
      ⟨c.cjk, templates.foldl (fun m t => m.insert t.path t.text) c.sources, c.assets⟩ := by
  unfold addTemplates
  induction templates generalizing c with
  | nil => rfl
  | cons t ts ih => rw [List.foldl_cons, ih, List.foldl_cons]; rfl

theorem toFiles_addRequest (c : Compiler) (r : Request) :
    (c.addRequest r).toFiles =
      ⟨c.cjk, c.sources.insert mainPath r.main, c.assets.overlay r.assets⟩ := by
  have hassets (es : Assets) (c : Compiler) :
      (es.entries.foldl (fun c a => c.addAsset a.1 a.2) c).toFiles =
        ⟨c.cjk, c.sources, c.assets.overlay es⟩ := by
    unfold PathMap.overlay
    generalize es.entries = es
    induction es generalizing c with
    | nil => rfl
    | cons e es ih => rw [List.foldl_cons, ih, List.foldl_cons]; rfl
  exact hassets r.assets (c.addSource mainPath r.main)

@[simp] theorem cjk_addRequest : (c.addRequest r).cjk = c.cjk := by rw [toFiles_addRequest]

@[simp] theorem sources_addRequest :
    (c.addRequest r).sources = c.sources.insert mainPath r.main := by rw [toFiles_addRequest]

@[simp] theorem assets_addRequest : (c.addRequest r).assets = c.assets.overlay r.assets := by
  rw [toFiles_addRequest]

end Compiler

end Compile

end Typeset
