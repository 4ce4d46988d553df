/-
Cells of a table.

The columns of a table are those of its header. Its cells follow one another,
row by row, and no row is filled up or cut off: so a cell stands behind all the
cells of the rows before its own, and the rows keep to the columns exactly where
each of them has as many cells as the header.
-/
import Mathlib.Data.List.Basic
import Typeset.Render.Context

namespace Typeset

/-! ## Rows one after another -/

section

variable {α : Type} {rows : List (List α)} {row : List α}

/-- The number of cells in the rows before a row. -/
def cellsBefore (rows : List (List α)) (i : Nat) : Nat := (rows.take i).flatten.length

@[simp] theorem cellsBefore_zero (rows : List (List α)) : cellsBefore rows 0 = 0 := by
  simp [cellsBefore]

theorem cellsBefore_cons (row : List α) (rows : List (List α)) (i : Nat) :
    cellsBefore (row :: rows) (i + 1) = row.length + cellsBefore rows i := by
  simp [cellsBefore]

theorem cellsBefore_length (rows : List (List α)) :
    cellsBefore rows rows.length = rows.flatten.length := by
  rw [cellsBefore, List.take_length]

theorem cellsBefore_succ {i : Nat} (h : rows[i]? = some row) :
    cellsBefore rows (i + 1) = cellsBefore rows i + row.length := by
  simp [cellsBefore, List.take_add_one, h]

/-- A cell of a row stands behind the cells of all rows before. -/
theorem getElem?_flatten {i j : Nat} {cell : α} (hi : rows[i]? = some row)
    (hj : row[j]? = some cell) : rows.flatten[cellsBefore rows i + j]? = some cell := by
  induction rows generalizing i with
  | nil => simp at hi
  | cons first rows ih =>
    rw [List.flatten_cons]
    cases i with
    | zero =>
      obtain rfl : first = row := by simpa using hi
      obtain ⟨hlt, -⟩ := List.getElem?_eq_some_iff.1 hj
      rw [cellsBefore_zero, Nat.zero_add, List.getElem?_append_left hlt, hj]
    | succ i =>
      rw [cellsBefore_cons, Nat.add_assoc, List.getElem?_append_right (Nat.le_add_right ..),
        Nat.add_sub_cancel_left]
      exact ih (by simpa using hi)

/-- **Rows keep to a number of columns** exactly if each of them has that many cells. -/
theorem cellsBefore_eq_mul_iff {columns : Nat} :
    (∀ i ≤ rows.length, cellsBefore rows i = i * columns) ↔
      ∀ row ∈ rows, row.length = columns := by
  constructor
  · intro h row hrow
    obtain ⟨i, hi⟩ := List.mem_iff_getElem?.1 hrow
    obtain ⟨hlt, -⟩ := List.getElem?_eq_some_iff.1 hi
    have hstart := h i (by omega)
    have hnext := h (i + 1) (by omega)
    rw [cellsBefore_succ hi, hstart, Nat.succ_mul] at hnext
    omega
  · intro h i hle
    induction i with
    | zero => simp
    | succ i ih =>
      obtain ⟨row, hi⟩ : ∃ row, rows[i]? = some row := ⟨rows[i], List.getElem?_eq_getElem (by omega)⟩
      rw [cellsBefore_succ hi, ih (by omega), h row (List.mem_of_getElem? hi), Nat.succ_mul]

end

/-! ## Cells of a table -/

namespace Markup

/-- The markup of a cell in a row. The first row is the header, which is bold. -/
def cell (row : Nat) (content : String) : String :=
  if row = 0 then "[*" ++ content ++ "*]" else "[" ++ content ++ "]"

end Markup

theorem Inline.value_renderEach (refs : References) (note : NoteExpander Logged)
    (cells : List (List Inline)) : (Inline.renderEach refs note cells).value =
      cells.map fun cell => (Inline.renderAll refs note cell).value := by
  induction cells with
  | nil => rfl
  | cons cell cells ih =>
    rw [Inline.renderEach, Logged.value_bind, Logged.value_bind, ih]
    rfl

namespace Context

/-- The cells of a table as they are written. -/
def tableCells (c : Context) (header : List (List Inline)) (body : List (List (List Inline))) :
    List (List String) :=
  (header.map fun cell => Markup.cell 0 (c.renderInlines cell).1) ::
    body.map fun row => row.map fun cell => Markup.cell 1 (c.renderInlines cell).1

theorem renderBlock_table (c : Context) (align : List (Option Align)) (header : List (List Inline))
    (body : List (List (List Inline))) (level : Nat) :
    (c.renderBlock (.table align (header :: body)) level).1 = some (Text.indent level
      (Markup.table align header.length (c.tableCells header body).flatten)) := by
  simp [renderBlock, renderInlines, record, Block.render, renderTable, Inline.value_renderEach,
    tableCells, Markup.cell, List.map_flatten, Function.comp_def]

theorem getElem?_tableCells (c : Context) {header : List (List Inline)}
    {body : List (List (List Inline))} {i : Nat} {row : List (List Inline)}
    (h : (header :: body)[i]? = some row) : (c.tableCells header body)[i]? =
      some (row.map fun cell => Markup.cell i (c.renderInlines cell).1) := by
  cases i with
  | zero =>
    obtain rfl : header = row := by simpa using h
    rfl
  | succ i =>
    have hrow : body[i]? = some row := by simpa using h
    simp [tableCells, hrow, Markup.cell]

theorem cellsBefore_tableCells (c : Context) (header : List (List Inline))
    (body : List (List (List Inline))) (i : Nat) :
    cellsBefore (c.tableCells header body) i = cellsBefore (header :: body) i := by
  have hrows (rows : List (List (List Inline))) (k : Nat) :
      cellsBefore (rows.map fun row => row.map fun cell =>
        Markup.cell 1 (c.renderInlines cell).1) k = cellsBefore rows k := by
    simp [cellsBefore, ← List.map_take, ← List.map_flatten]
  cases i with
  | zero => simp
  | succ i => rw [tableCells, cellsBefore_cons, cellsBefore_cons, hrows, List.length_map]

/-- **The cells of a table follow one another.** A table declares the columns of its header, with an
alignment for each. Its cells are those of the header, in bold, and then those of each row of the
body in turn, all of them and no others: a cell stands behind the cells of all rows before its own.
Every row begins at its place in the columns, and the last ends there, exactly if each row of the
body has as many cells as the header. -/
theorem table_cells_in_order (c : Context) (align : List (Option Align))
    (header : List (List Inline)) (body : List (List (List Inline))) (level : Nat) :
    let rows := header :: body
    let columns := header.length
    ∃ names cells : List String,
      (c.renderBlock (.table align rows) level).1 = some (Text.indent level (Text.joinWith "\n"
        ["#table(",
         "  columns: (" ++ Text.joinWith ", " (List.replicate columns "auto") ++ "),",
         "  align: (" ++ Text.joinWith ", " names ++ "),",
         "  " ++ Text.joinWith ", " cells,
         ")"])) ∧
      names.length = columns ∧
      (∀ i < columns, names[i]? = some (match align[i]? with
        | some (some .right) => "right"
        | some (some .center) => "center"
        | _ => "left")) ∧
      cells.length = cellsBefore rows rows.length ∧
      (∀ (i j : Nat) (row : List (List Inline)) (cell : List Inline),
        rows[i]? = some row → row[j]? = some cell →
          cells[cellsBefore rows i + j]? = some (Markup.cell i (c.renderInlines cell).1)) ∧
      ((∀ i ≤ rows.length, cellsBefore rows i = i * columns) ↔
        ∀ row ∈ body, row.length = columns) := by
  intro rows columns
  refine ⟨_, (c.tableCells header body).flatten, c.renderBlock_table align header body level, ?_, ?_,
    ?_, ?_, ?_⟩
  · simp [columns]
  · intro i hi
    rw [List.getElem?_map, List.getElem?_range hi, Option.map_some]
    rcases align[i]? with _ | _ | _ | _ | _ <;> rfl
  · have hlength : (c.tableCells header body).length = rows.length := by simp [tableCells, rows]
    rw [← cellsBefore_length, hlength, cellsBefore_tableCells]
  · intro i j row cell hi hj
    rw [← cellsBefore_tableCells]
    exact getElem?_flatten (c.getElem?_tableCells hi) (by simp [hj])
  · rw [cellsBefore_eq_mul_iff]
    simp [rows, columns]

/-- A row that is too short takes the first cell of the next row into its last column, and a row
that is too long runs over: neither the empty cell of the one nor the first cell of the other stands
at its place in the columns. -/
theorem ragged_rows_shift :
    let header : List (List Inline) := [[.text "A"], [.text "B"]]
    let body : List (List (List Inline)) := [[[.text "1"]], [[.text "1"], [.text "2"], [.text "3"]]]
    let cells := ["[*A*]", "[*B*]", "[1]", "[1]", "[2]", "[3]"]
    (({} : Context).renderBlock (.table [none, none] (header :: body)) 0).1 =
      some (Text.joinWith "\n"
        ["#table(", "  columns: (auto, auto),", "  align: (left, left),",
         "  " ++ Text.joinWith ", " cells, ")"]) ∧
    cells[1 * header.length + 1]? ≠ some "[]" ∧
    cells[2 * header.length + 0]? ≠ some "[1]" := by
  decide +kernel

end Context

end Typeset
