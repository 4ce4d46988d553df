/-
What rendering leaves as it found it.

Rendering looks up references and notes which notes are open, and all it leaves
behind is warnings after those that were there. Which notes are open matters as
a set only. So what a block or inline comes to depends neither on what was
rendered before it nor on the warnings so far, and the same reference comes to
the same text each time.
-/
import Typeset.Proofs.Render.Watched

namespace Typeset

/-- What is rendered in one go. -/
inductive Piece where
  | block (b : Block) (level : Nat)
  | inline (i : Inline)
  | inlines (is : List Inline)

/-- The markup of a piece. A run of inlines always has one. -/
def Piece.render {m : Type → Type} [Monad m] [MonadWarn m] (refs : References)
    (note : NoteExpander m) : Piece → m (Option String)
  | .block b level => b.render refs note level
  | .inline i => i.render refs note
  | .inlines is => do return some (← Inline.renderAll refs note is)

namespace Context

def renderPiece (c : Context) : Piece → Option String × Context
  | .block b level => c.renderBlock b level
  | .inline i => c.renderInline i
  | .inlines is =>
    let (text, c) := c.renderInlines is
    (some text, c)

/-- Renders pieces one after another, each in the context that the one before it left. -/
def renderPieces (c : Context) : List Piece → List (Option String) × Context
  | [] => ([], c)
  | p :: ps =>
    let (text, c) := c.renderPiece p
    let (texts, c) := renderPieces c ps
    (text :: texts, c)

/-- The context with more warnings, and as it is otherwise. -/
def append (c : Context) (warnings : List Warning) : Context :=
  { c with warnings := c.warnings ++ warnings }

@[simp] theorem append_nil (c : Context) : c.append [] = c := by simp [append]

@[simp] theorem append_append (c : Context) (ws vs : List Warning) :
    (c.append ws).append vs = c.append (ws ++ vs) := by simp [append]

theorem record_eq {α : Type} (c : Context) (x : Logged α) :
    c.record x = (x.value, c.append x.warnings) := rfl

theorem renderPiece_eq (c : Context) (p : Piece) :
    c.renderPiece p = c.record (p.render c.references c.expander) := by
  cases p with
  | block | inline => rfl
  | inlines is => simp [renderPiece, renderInlines, Piece.render, record]

end Context

/-! ## Open notes as a set -/

/-- **A reference expands the same way** while the same notes are open, however they were opened. -/
theorem expandNote_congr {refs : References} {s t : List String} (h : ∀ k, k ∈ s ↔ k ∈ t)
    (id : String) : expandNote refs s id = expandNote refs t id := by
  cases hn : refs.note? id with
  | none => rw [expandNote_undefined hn, expandNote_undefined hn]
  | some body =>
    by_cases ho : Text.lowercase id ∈ s
    · rw [expandNote_open hn ho, expandNote_open hn ((h _).1 ho)]
    · have hk := References.mem_noteKeys_of_note? hn
      have hinner : expandNote refs (s ++ [Text.lowercase id]) =
          expandNote refs (t ++ [Text.lowercase id]) := by
        funext id'
        exact expandNote_congr (fun k => by simp [h k]) id'
      rw [expandNote_closed hn ho, expandNote_closed hn (fun hm => ho ((h _).2 hm)), hinner]
termination_by (refs.closed s).length
decreasing_by exact References.length_closed_append hk ho

/-! ## Both renderings of a piece -/

namespace StepRelation

variable {m n : Type → Type} [Monad m] [MonadWarn m] [Monad n] [MonadWarn n]
  {refs : References} {e : NoteExpander m} {e' : NoteExpander n}

theorem piece (R : StepRelation m n) (h : ∀ id, R.rel (e id) (e' id)) (p : Piece) :
    R.rel (p.render refs e) (p.render refs e') := by
  cases p with
  | block b level => exact R.block h level b
  | inline i => exact R.inline h i
  | inlines is => exact R.wrap (R.inlines h is) _

end StepRelation

theorem References.room_le (refs : References) (s : List String) :
    refs.room s ≤ refs.noteKeys.length :=
  (Finset.card_filter_le _ _).trans (List.toFinset_card_le _)

/-! ## The frame -/

/-- What a piece comes to where the notes `opened` are being expanded. -/
def Piece.outcome (refs : References) (opened : List String) (p : Piece) : Logged (Option String) :=
  p.render refs (expandNote refs opened)

/-- A context over `refs` where the notes `opened` are open, in any order. -/
structure Context.Over (refs : References) (opened : List String) (c : Context) : Prop where
  references : c.references = refs
  opened : ∀ k, k ∈ c.opened ↔ k ∈ opened

namespace Context.Over

variable {refs : References} {opened : List String} {c : Context}

theorem expandNote_eq (h : c.Over refs opened) :
    expandNote refs c.opened = expandNote refs opened :=
  funext (expandNote_congr h.opened)

theorem append (h : c.Over refs opened) (ws : List Warning) : (c.append ws).Over refs opened :=
  ⟨h.references, h.opened⟩

theorem renderPiece (h : c.Over refs opened) (p : Piece) :
    c.renderPiece p =
      ((p.outcome refs opened).value, c.append (p.outcome refs opened).warnings) := by
  rw [renderPiece_eq, expander, h.references, h.expandNote_eq, record_eq, Piece.outcome]

/-- Pieces one after another: each finds the context as the first did, but for warnings. -/
theorem renderPieces (h : c.Over refs opened) (ps : List Piece) :
    c.renderPieces ps = (ps.map fun p => (p.outcome refs opened).value,
      c.append (ps.flatMap fun p => (p.outcome refs opened).warnings)) := by
  induction ps generalizing c with
  | nil => simp [Context.renderPieces]
  | cons p ps ih =>
    have hnext := ih (h.append (p.outcome refs opened).warnings)
    rw [Context.renderPieces, h.renderPiece p]
    simp only [hnext, append_append, List.map_cons, List.flatMap_cons]

/-- The rendering that enters and leaves notes in the context. -/
theorem watched (h : c.Over refs opened) (p : Piece) {limit : Nat}
    (hlimit : refs.noteKeys.length ≤ limit) : ∃ es,
    p.render refs (Watched.expandNote limit) c = some ⟨(p.outcome refs opened).value,
      c.append (p.outcome refs opened).warnings, es⟩ := by
  have hnote := Watched.follows_expandNote refs limit c.opened ((refs.room_le _).trans hlimit)
  obtain ⟨es, hes, -⟩ := (Watched.follows refs c.opened).piece hnote p c h.references rfl
  refine ⟨es, ?_⟩
  rw [hes, h.expandNote_eq, record_eq, Piece.outcome]

end Context.Over

/-- **Rendering only appends warnings.** Given the references and the set of open notes, every piece
has one text and one list of warnings. From whatever context over them: rendering the piece gives
that text and leaves the context with these warnings appended; so does the rendering that enters and
leaves notes in the context itself, where notes may nest as deep as there are any; and pieces that
are rendered one after another come to what each comes to alone. -/
theorem Context.rendering_appends (refs : References) (opened : List String) :
    ∃ outcome : Piece → Option String × List Warning,
      ∀ c : Context, c.references = refs → (∀ k, k ∈ c.opened ↔ k ∈ opened) →
        (∀ p : Piece, c.renderPiece p = ((outcome p).1, c.append (outcome p).2)) ∧
        (∀ (p : Piece) (limit : Nat), refs.noteKeys.length ≤ limit → ∃ es,
          p.render refs (Watched.expandNote limit) c =
            some ⟨(outcome p).1, c.append (outcome p).2, es⟩) ∧
        ∀ ps, c.renderPieces ps =
          (ps.map fun p => (outcome p).1, c.append (ps.flatMap fun p => (outcome p).2)) := by
  refine ⟨fun p => ((p.outcome refs opened).value, (p.outcome refs opened).warnings),
    fun c hrefs hopened => ?_⟩
  have hc : c.Over refs opened := ⟨hrefs, hopened⟩
  exact ⟨hc.renderPiece, fun p _ hlimit => hc.watched p hlimit, hc.renderPieces⟩

/-- Two notes that refer to each other. -/
def mutualNotes : References := .ofBlocks
  [.footnoteDefinition "a" [.paragraph [.text "x", .footnoteReference "b"]],
   .footnoteDefinition "b" [.paragraph [.text "y", .footnoteReference "A"]]]

/-- The reference to such a note, from two contexts where the same notes are open: the text is the
same every time, and the warning about the way back comes behind those that were there. -/
theorem Context.rendering_appends_mutual :
    let c : Context := ⟨mutualNotes, ["p", "q"], []⟩
    let d : Context := ⟨mutualNotes, ["q", "p"], [.unknownStyle "s"]⟩
    let p : Piece := .inline (.footnoteReference "a")
    let text := some "#footnote[x#footnote[y]]"
    c.renderPiece p = (text, c.append [.recursiveFootnote "A"]) ∧
      (∃ es, p.render mutualNotes (Watched.expandNote 2) d =
        some ⟨text, d.append [.recursiveFootnote "A"], es⟩) ∧
      d.renderPieces [p, p] =
        ([text, text], d.append [.recursiveFootnote "A", .recursiveFootnote "A"]) := by
  intro c d p text
  obtain ⟨outcome, h⟩ := rendering_appends mutualNotes ["p", "q"]
  obtain ⟨hc, -, -⟩ := h c rfl fun _ => Iff.rfl
  obtain ⟨-, hwatched, hpieces⟩ := h d rfl fun k => by simp [d, or_comm]
  have htext : (c.renderPiece p).1 = text := by decide +kernel
  have hwarnings : (c.renderPiece p).2.warnings = [.recursiveFootnote "A"] := by decide +kernel
  rw [hc p] at htext hwarnings
  have houtcome : outcome p = (text, [.recursiveFootnote "A"]) := Prod.ext htext hwarnings
  refine ⟨?_, ?_, ?_⟩
  · rw [hc p, houtcome]
  · have hwatched := hwatched p 2 (Nat.le_refl 2)
    rwa [houtcome] at hwatched
  · rw [hpieces]
    simp [houtcome]

end Typeset
