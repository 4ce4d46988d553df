/-
Expanding note references.

A note expands to its body on the spot. The notes that are being expanded are
known by their lower-case identifiers, and a reference to one of them is
dropped: so each expansion opens a note that was not open, and expanding ends.
-/
import Typeset.Render.Block

namespace Typeset

/-- A note on one line, given the markup of its blocks. -/
def Markup.footnote (parts : List (Option String)) : String :=
  call "footnote" (Text.trimBlanks (Text.joinNonEmpty " " parts))

namespace References

/-- The notes that are not being expanded. -/
def closed (refs : References) (opened : List String) : List String :=
  refs.noteKeys.filter (!opened.contains ·)

theorem closed_append (refs : References) (opened : List String) (key : String) :
    refs.closed (opened ++ [key]) = (refs.closed opened).filter (· != key) := by
  simp only [closed, List.filter_filter]
  congr 1
  funext k
  rw [Bool.eq_iff_iff]
  simp [and_comm]

/-- Opening a note that was not open leaves fewer to open. -/
theorem length_closed_append {refs : References} {opened : List String} {key : String}
    (hk : key ∈ refs.noteKeys) (ho : key ∉ opened) :
    (refs.closed (opened ++ [key])).length < (refs.closed opened).length := by
  rw [closed_append, List.length_filter_lt_length_iff_exists]
  exact ⟨key, by simp [closed, hk, ho], by simp⟩

end References

/-- What a note reference expands to while the notes `opened` are being expanded. -/
def expandNote (refs : References) (opened : List String) (identifier : String) :
    Logged (Option String) :=
  match _hb : refs.note? identifier with
  | none => do
    Logged.warn (.unresolvedFootnote identifier)
    return none
  | some body =>
    let key := Text.lowercase identifier
    if _ho : key ∈ opened then do
      Logged.warn (.recursiveFootnote identifier)
      return none
    else do
      let parts ← Block.renderAll refs (fun i => expandNote refs (opened ++ [key]) i) 0 body
      return some (Markup.footnote parts)
termination_by (refs.closed opened).length
decreasing_by exact References.length_closed_append (References.mem_noteKeys_of_note? _hb) _ho

section

variable {refs : References} {opened : List String} {identifier : String} {body : List Block}

theorem expandNote_undefined (h : refs.note? identifier = none) :
    expandNote refs opened identifier = (do
      Logged.warn (.unresolvedFootnote identifier)
      return none) := by
  rw [expandNote]
  split
  · rfl
  · simp_all

theorem expandNote_open (h : refs.note? identifier = some body)
    (ho : Text.lowercase identifier ∈ opened) :
    expandNote refs opened identifier = (do
      Logged.warn (.recursiveFootnote identifier)
      return none) := by
  rw [expandNote]
  split
  · simp_all
  · simp only [ho, dif_pos]

theorem expandNote_closed (h : refs.note? identifier = some body)
    (ho : Text.lowercase identifier ∉ opened) :
    expandNote refs opened identifier = (do
      let parts ←
        Block.renderAll refs (expandNote refs (opened ++ [Text.lowercase identifier])) 0 body
      return some (Markup.footnote parts)) := by
  rw [expandNote]
  split
  · simp_all
  · rename_i found hf
    obtain rfl : found = body := by simpa [hf] using h
    simp only [ho, dif_neg, not_false_iff]

end

end Typeset
