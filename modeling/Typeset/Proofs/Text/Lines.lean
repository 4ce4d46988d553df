/-
Lines of a text.

Moving a text to an indentation level puts the margin in front of each of its
lines. So every line has the margin, and taking as many characters off every
line gives the text back. A text that is joined breaks where one of its parts
does, or where the separator does and stands between two parts.
-/
import Mathlib.Data.List.Basic
import Typeset.Text.Lines

namespace Typeset.Text

/-- The lines of a text. -/
def lines (s : String) : List (List Char) := s.toList.splitOn '\n'

/-- A text with the width of a level's margin taken off every line. -/
def outdent (level : Nat) (s : String) : String :=
  String.ofList (['\n'].intercalate ((lines s).map (·.drop (2 * level))))

/-- No piece holds the character that a text is split at. -/
theorem not_mem_of_mem_splitOn {cs piece : List Char} {c : Char} (h : piece ∈ cs.splitOn c) :
    c ∉ piece := by
  induction cs generalizing piece with
  | nil =>
    obtain rfl : piece = [] := by simpa using h
    exact List.not_mem_nil
  | cons x cs ih =>
    rw [List.splitOn_cons_eq_if_modifyHead] at h
    split at h
    · rcases List.mem_cons.1 h with rfl | h
      · exact List.not_mem_nil
      · exact ih h
    · rename_i hx
      obtain ⟨first, pieces, hpieces⟩ := List.exists_cons_of_ne_nil (List.splitOn_ne_nil c cs)
      rw [hpieces] at ih h
      rcases List.mem_cons.1 h with rfl | h
      · have hne : c ≠ x := fun he => hx (by simp [he])
        exact List.not_mem_cons_of_ne_of_not_mem hne (ih List.mem_cons_self)
      · exact ih (List.mem_cons_of_mem first h)

theorem intercalate_append_cons {α : Type} (separator front line : List α)
    (rest : List (List α)) : separator.intercalate ((front ++ line) :: rest) =
      front ++ separator.intercalate (line :: rest) := by
  cases rest with
  | nil => simp only [List.intercalate_singleton]
  | cons next rest => simp only [List.intercalate_cons_cons, List.append_assoc]

theorem prefix_of_splitOn_eq_cons {cs first : List Char} {more : List (List Char)} {c : Char}
    (h : cs.splitOn c = first :: more) : first <+: cs := by
  have hcs : [c].intercalate (first :: more) = cs := h ▸ List.intercalate_splitOn c
  rw [← hcs, ← List.append_nil first, intercalate_append_cons, List.append_nil]
  exact List.prefix_append ..

/-- A text is known by its lines. -/
theorem eq_of_lines_eq {s t : String} (h : lines s = lines t) : s = t := by
  have hs : ['\n'].intercalate (lines s) = s.toList := List.intercalate_splitOn '\n'
  have ht : ['\n'].intercalate (lines t) = t.toList := List.intercalate_splitOn '\n'
  exact String.toList_injective (by rw [← hs, h, ht])

/-- What holds no line feed goes on the first line of what stands behind it. -/
theorem lines_append {s t : String} {first : List Char} {rest : List (List Char)}
    (hs : '\n' ∉ s.toList) (ht : lines t = first :: rest) :
    lines (s ++ t) = (s.toList ++ first) :: rest := by
  have htext : t.toList = ['\n'].intercalate (first :: rest) := by
    rw [← ht, lines, List.intercalate_splitOn]
  have hline : ∀ line ∈ first :: rest, '\n' ∉ line :=
    fun line hline => not_mem_of_mem_splitOn (ht ▸ hline)
  rw [lines, String.toList_append, htext, ← intercalate_append_cons, List.splitOn_intercalate]
  · intro line hm
    rcases List.mem_cons.1 hm with rfl | hm
    · exact List.not_mem_append hs (hline first List.mem_cons_self)
    · exact hline line (List.mem_cons_of_mem first hm)
  · exact List.cons_ne_nil _ _

/-- A text is one line exactly where it holds no line feed. -/
theorem newline_mem_iff {s : String} {first : List Char} {rest : List (List Char)}
    (h : lines s = first :: rest) : '\n' ∈ s.toList ↔ rest ≠ [] := by
  constructor
  · rintro hmem rfl
    have hs : ['\n'].intercalate (lines s) = s.toList := List.intercalate_splitOn '\n'
    rw [h, List.intercalate_singleton] at hs
    exact not_mem_of_mem_splitOn (h ▸ List.mem_cons_self) (hs ▸ hmem)
  · intro hne
    by_contra hmem
    have hone : lines s = [s.toList] := List.splitOn_eq_singleton hmem
    rw [h] at hone
    exact hne (List.cons.inj hone).2

/-! ## Moved lines -/

/-- The margin comes in front of each line. -/
theorem shift_eq (front cs : List Char) :
    shift front cs = ['\n'].intercalate ((cs.splitOn '\n').map (front ++ ·)) := by
  induction cs with
  | nil => simp [shift]
  | cons c cs ih =>
    obtain ⟨line, rest, hlines⟩ := List.exists_cons_of_ne_nil (List.splitOn_ne_nil '\n' cs)
    rw [shift, hlines, List.map_cons, intercalate_append_cons] at ih
    have htail := List.append_cancel_left ih
    rw [shift, List.flatMap_cons, List.splitOn_cons_eq_if_modifyHead, hlines, htail]
    by_cases hc : c = '\n'
    · subst hc
      simp [List.intercalate_cons_cons, intercalate_append_cons]
    · simp [hc, intercalate_append_cons]

theorem indent_zero (s : String) : indent 0 s = s := by
  have hmargin : margin 0 = [] := rfl
  rw [indent, hmargin, shift_eq]
  simp [List.intercalate_splitOn]

/-- Each line of a text that is moved is a line of the text behind the margin. -/
theorem lines_indent (level : Nat) (s : String) :
    lines (indent level s) = (lines s).map (margin level ++ ·) := by
  rw [lines, indent, String.toList_ofList, shift_eq, List.splitOn_intercalate]
  · rfl
  · intro line hline
    obtain ⟨piece, hpiece, rfl⟩ := List.mem_map.1 hline
    have hmargin : '\n' ∉ margin level := fun h => by simpa using List.eq_of_mem_replicate h
    exact List.not_mem_append hmargin (not_mem_of_mem_splitOn hpiece)
  · simp [List.splitOn_ne_nil]

theorem margin_prefix_of_mem_lines {level : Nat} {s : String} {line : List Char}
    (h : line ∈ lines (indent level s)) : margin level <+: line := by
  rw [lines_indent] at h
  obtain ⟨piece, -, rfl⟩ := List.mem_map.1 h
  exact List.prefix_append ..

theorem outdent_indent (level : Nat) (s : String) : outdent level (indent level s) = s := by
  have hdrop (line : List Char) : (margin level ++ line).drop (2 * level) = line := by
    rw [← List.length_replicate (n := 2 * level) (a := ' '), margin, List.drop_left]
  rw [outdent, lines_indent, List.map_map, Function.comp_def]
  simp only [hdrop, List.map_id', lines, List.intercalate_splitOn, String.ofList_toList]

theorem indent_indent (m n : Nat) (s : String) : indent m (indent n s) = indent (m + n) s := by
  apply eq_of_lines_eq
  have hmargin (line : List Char) : margin m ++ (margin n ++ line) = margin (m + n) ++ line := by
    rw [← List.append_assoc, margin, margin, ← List.replicate_add, ← Nat.mul_add, margin]
  rw [lines_indent, lines_indent, lines_indent, List.map_map, Function.comp_def]
  simp only [hmargin]

theorem indent_append_newline (level : Nat) (s t : String) :
    indent level (s ++ "\n" ++ t) = indent level s ++ "\n" ++ indent level t := by
  simp [← String.toList_inj, indent, shift]

theorem indent_succ_ne_empty (level : Nat) (s : String) : indent (level + 1) s ≠ "" := by
  simp [indent, shift, margin, Nat.mul_succ, List.replicate_succ]

theorem newline_mem_indent {level : Nat} {s : String} :
    '\n' ∈ (indent level s).toList ↔ '\n' ∈ s.toList := by
  have hmargin : '\n' ∉ margin level := fun h => by simpa using List.eq_of_mem_replicate h
  simp only [indent, shift, String.toList_ofList, List.mem_append, hmargin, false_or,
    List.mem_flatMap]
  constructor
  · rintro ⟨c, hc, hmem⟩
    obtain rfl : '\n' = c := by
      split at hmem
      · rename_i h
        exact (beq_iff_eq.1 h).symm
      · exact List.mem_singleton.1 hmem
    exact hc
  · exact fun h => ⟨_, h, by simp⟩

/-! ## Joined texts -/

theorem lines_append_newline (s t : String) : lines (s ++ "\n" ++ t) = lines s ++ lines t := by
  have htext : (s ++ "\n" ++ t).toList = s.toList ++ '\n' :: t.toList := by simp
  rw [lines, htext, List.splitOn_append_cons_self, lines, lines]

/-- Where two texts meet, the last line of the first goes on in the second. -/
theorem lines_append_of_eq {s t : String} {above below : List (List Char)} {last first : List Char}
    (hs : lines s = above ++ [last]) (ht : lines t = first :: below) :
    lines (s ++ t) = above ++ (last ++ first) :: below := by
  have hlast : '\n' ∉ last := not_mem_of_mem_splitOn (c := '\n') (hs ▸ List.mem_concat_self)
  have hone : lines (String.ofList last) = [last] := by
    rw [lines, String.toList_ofList, List.splitOn_eq_singleton hlast]
  have hline : lines (String.ofList last ++ t) = (last ++ first) :: below := by
    simpa using lines_append (s := String.ofList last) (by simpa using hlast) ht
  cases above with
  | nil =>
    obtain rfl : s = String.ofList last := eq_of_lines_eq (by rw [hs, hone, List.nil_append])
    exact hline
  | cons line above =>
    let front := String.ofList (['\n'].intercalate (line :: above))
    have hfront : lines front = line :: above := by
      rw [lines, String.toList_ofList, List.splitOn_intercalate]
      · exact fun l hl => not_mem_of_mem_splitOn (c := '\n') (hs ▸ List.mem_append_left [last] hl)
      · exact List.cons_ne_nil _ _
    obtain rfl : s = front ++ "\n" ++ String.ofList last :=
      eq_of_lines_eq (by rw [hs, lines_append_newline, hfront, hone])
    rw [String.append_assoc, lines_append_newline, hfront, hline]

/-- Texts that are joined by line feeds keep their lines. -/
theorem lines_joinWith {parts : List String} (h : parts ≠ []) :
    lines (joinWith "\n" parts) = parts.flatMap lines := by
  induction parts with
  | nil => exact absurd rfl h
  | cons s rest ih =>
    cases rest with
    | nil => simp [joinWith]
    | cons r rest =>
      have hjoin : joinWith "\n" (s :: r :: rest) = s ++ "\n" ++ joinWith "\n" (r :: rest) := rfl
      rw [hjoin, lines_append_newline, ih (List.cons_ne_nil r rest)]
      exact List.flatMap_cons.symm

theorem toList_joinWith_cons (separator s : String) (rest : List String) :
    (joinWith separator (s :: rest)).toList =
      s.toList ++ rest.flatMap fun r => separator.toList ++ r.toList := by
  induction rest generalizing s with
  | nil => simp [joinWith]
  | cons r rest ih => simp [joinWith, ih]

theorem mem_joinWith {c : Char} {separator : String} {parts : List String} :
    c ∈ (joinWith separator parts).toList ↔
      (∃ s ∈ parts, c ∈ s.toList) ∨ c ∈ separator.toList ∧ 1 < parts.length := by
  induction parts with
  | nil => simp [joinWith]
  | cons s rest ih =>
    cases rest with
    | nil => simp [joinWith]
    | cons r rest =>
      have hmore : 1 < (s :: r :: rest).length := by simp
      have hmem : ∀ t, t ∈ s :: r :: rest ↔ t = s ∨ t ∈ r :: rest := fun _ => List.mem_cons
      simp only [joinWith, String.toList_append, List.mem_append, ih, hmem, or_and_right, exists_or,
        exists_eq_left, hmore, and_true]
      grind

theorem joinNonEmpty_eq (separator : String) (parts : List (Option String)) :
    joinNonEmpty separator parts =
      joinWith separator ((parts.map (·.getD "")).filter (!·.isEmpty)) := by
  rw [joinNonEmpty]
  congr 1
  induction parts with
  | nil => rfl
  | cons part parts ih =>
    cases part with
    | none => simpa using ih
    | some s => by_cases hs : s = "" <;> simpa [List.filter_cons, hs] using ih

/-- A part that is not there or empty is dropped. -/
theorem joinNonEmpty_append_cons (separator : String) {part : Option String}
    (h : part.getD "" = "") (before after : List (Option String)) :
    joinNonEmpty separator (before ++ part :: after) = joinNonEmpty separator (before ++ after) := by
  rw [joinNonEmpty_eq, joinNonEmpty_eq]
  simp [h]

/-- Without the characters of the separator, texts that are joined follow one another. -/
theorem filter_joinWith {separator : String} {q : Char → Bool}
    (h : ∀ c ∈ separator.toList, q c = false) (parts : List String) :
    (joinWith separator parts).toList.filter q = (parts.flatMap String.toList).filter q := by
  have hsep : separator.toList.filter q = [] := by simpa using h
  cases parts with
  | nil => rfl
  | cons s rest =>
    rw [toList_joinWith_cons, List.flatMap_cons, List.filter_append, List.filter_append,
      List.filter_flatMap, List.filter_flatMap]
    simp [hsep]

theorem flatMap_filter_isEmpty (parts : List String) :
    (parts.filter (!·.isEmpty)).flatMap String.toList = parts.flatMap String.toList := by
  induction parts with
  | nil => rfl
  | cons s parts ih => by_cases hs : s = "" <;> simp [hs, ih]

/-- A character of texts that follow one another stands in one of them, behind those before it. -/
theorem flatMap_eq_append_cons_iff {α : Type} {f : α → List Char} {as : List α} {u v : List Char}
    {c : Char} : as.flatMap f = u ++ c :: v ↔ ∃ before a behind u' v', as = before ++ a :: behind ∧
      f a = u' ++ c :: v' ∧ u = before.flatMap f ++ u' ∧ v = v' ++ behind.flatMap f := by
  constructor
  · intro h
    induction as generalizing u with
    | nil => simp at h
    | cons a as ih =>
      rw [List.flatMap_cons] at h
      obtain ⟨front, rfl, hrest⟩ | ⟨back, ha, hback⟩ := List.append_eq_append_iff.1 h
      · obtain ⟨before, b, behind, u', v', rfl, hb, rfl, hv⟩ := ih hrest
        exact ⟨a :: before, b, behind, u', v', rfl, hb, by simp, hv⟩
      · cases back with
        | nil =>
          obtain ⟨before, b, behind, u', v', rfl, hb, hu, hv⟩ := ih (u := []) hback.symm
          exact ⟨a :: before, b, behind, u', v', rfl, hb, by simpa [ha] using hu, hv⟩
        | cons d back =>
          obtain ⟨rfl, rfl⟩ := List.cons.inj hback
          exact ⟨[], a, as, u, back, rfl, ha, rfl, rfl⟩
  · rintro ⟨before, a, behind, u', v', rfl, ha, rfl, rfl⟩
    simp [ha]

end Typeset.Text
