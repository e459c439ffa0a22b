import TerminalEditor.Buffer.Document
import TerminalEditor.Proofs.Text.Runs

/-!
# Where a cursor lands

Every position is reached through the rows around it: the rows above it are
closed by newlines, and the row itself is cut at the column.  So a move to a
position can be followed without counting bytes, and the position of the place
where it lands is known.
-/

namespace TerminalEditor.Document

open Text

variable
    {document : Document}
    {upper lower : List Bytes}
    {left right run : Bytes}

/-! ## The rows around a row -/

theorem rowStart_of_rows
    (found : document.rows = upper ++ run :: lower) :
    document.rowStart upper.length = (closed newline upper).length := by
  rw [rowStart, found, List.take_left]
  rfl

theorem rowLength_of_rows
    (found : document.rows = upper ++ run :: lower) :
    document.rowLength upper.length = run.length := by
  rw [rowLength, found, List.getElem?_append_right (Nat.le_refl _)]
  simp

theorem lastRow_of_rows
    (found : document.rows = upper ++ run :: lower) :
    document.lastRow = upper.length + lower.length := by
  rw [lastRow, found, List.length_append, List.length_cons]
  omega

/-- Every row that exists has rows above it and rows below it. -/
theorem exists_rows
    (document : Document)
    {row : Nat}
    (present : row ≤ document.lastRow) :
    ∃ upper run lower,
      document.rows = upper ++ run :: lower ∧ upper.length = row := by
  have filled : document.rows ≠ [] :=
    fields_ne_nil newline document.bytes
  have inside : row < document.rows.length := by
    have := List.length_pos_iff.mpr filled
    rw [lastRow] at present
    omega
  exact exists_split inside

theorem lastRow_le
    (document : Document) :
    document.lastRow ≤ document.bytes.length := by
  rw [lastRow, rows, length_fields, Nat.add_sub_cancel]
  exact List.count_le_length

theorem rowLength_le
    {row : Nat}
    (present : row ≤ document.lastRow) :
    document.rowLength row ≤ document.bytes.length := by
  rcases document.exists_rows present with ⟨upper, run, lower, found, reached⟩
  rw [← reached, rowLength_of_rows found, eq_of_fields found]
  simp only [List.length_append]
  omega

/-! ## The rows around a cursor -/

/-- There is a cut at the cursor. -/
theorem exists_cut
    (document : Document) :
    ∃ upper left right lower,
      Cut newline document.before document.after upper left right lower :=
  Text.exists_cut newline document.before document.after

section cut

variable
    (cut :
      Cut newline document.before document.after upper left right lower)

include cut

theorem rows_of_cut :
    document.rows = upper ++ (left ++ right) :: lower := by
  have whole := cut.fields_eq
  rwa [before, after, List.take_append_drop] at whole

/-- The position counts the rows above and the bytes left of the cursor. -/
theorem position_of_cut :
    document.position = ⟨upper.length, left.length⟩ := by
  simp [position, cut.fields_before]

theorem rowRemaining_of_cut :
    document.rowRemaining = right.length := by
  rw [rowRemaining, position_of_cut cut,
    rowLength_of_rows (rows_of_cut cut), List.length_append,
    Nat.add_sub_cancel_left]

theorem cursor_of_cut
    (inside : document.cursor ≤ document.bytes.length) :
    document.cursor = (closed newline upper).length + left.length := by
  rw [← List.length_append, ← cut.before_eq, before, List.length_take,
    Nat.min_eq_left inside]

end cut

/-! ## Moving to a position -/

theorem moveTo_of_rows
    {target : Position}
    (found : document.rows = upper ++ run :: lower)
    (reached : upper.length = min target.row document.lastRow) :
    document.moveTo target =
      { document with
        cursor :=
          (closed newline upper).length +
            min target.column run.length } := by
  rw [moveTo, ← reached, rowStart_of_rows found,
    rowLength_of_rows found]

/-- The cursor lands in the row that is reached, cut at the column. -/
theorem cut_moveTo
    {target : Position}
    (found : document.rows = upper ++ run :: lower)
    (reached : upper.length = min target.row document.lastRow) :
    Cut newline (document.moveTo target).before
      (document.moveTo target).after
      upper (run.take target.column) (run.drop target.column) lower := by
  have landing := cut_of_fields found target.column
  have whole := eq_of_fields found
  rw [moveTo_of_rows found reached, before, after]
  generalize closed newline upper = above at *
  generalize opened newline lower = below at *
  have parted :
      document.bytes =
        (above ++ run.take target.column) ++
          (run.drop target.column ++ below) := by
    rw [List.append_assoc above, ← List.append_assoc (run.take _),
      List.take_append_drop, whole, List.append_assoc]
  have counted :
      above.length + min target.column run.length =
        (above ++ run.take target.column).length := by
    rw [List.length_append, List.length_take]
  rw [counted, parted, List.take_left, List.drop_left]
  exact landing

/-- Where a move lands does not depend on where it starts. -/
@[simp]
theorem moveTo_moveTo
    (document : Document)
    (first second : Position) :
    (document.moveTo first).moveTo second = document.moveTo second :=
  rfl

/-- A move lands at the position nearest to its target. -/
theorem position_moveTo
    (document : Document)
    (target : Position) :
    (document.moveTo target).position =
      ⟨min target.row document.lastRow,
        min target.column
          (document.rowLength (min target.row document.lastRow))⟩ := by
  rcases document.exists_rows (Nat.min_le_right target.row _) with
    ⟨upper, run, lower, found, reached⟩
  rw [position_of_cut (cut_moveTo found reached), ← reached,
    rowLength_of_rows found, List.length_take]

theorem cursor_moveTo_le
    (document : Document)
    (target : Position) :
    (document.moveTo target).cursor ≤ document.bytes.length := by
  rcases document.exists_rows (Nat.min_le_right target.row _) with
    ⟨upper, run, lower, found, reached⟩
  rw [moveTo_of_rows found reached, eq_of_fields found]
  simp only [List.length_append]
  omega

/-- A cursor is where a move to its own position would put it. -/
theorem moveTo_position
    {document : Document}
    (inside : document.cursor ≤ document.bytes.length) :
    document.moveTo document.position = document := by
  rcases document.exists_cut with ⟨upper, left, right, lower, cut⟩
  have found := rows_of_cut cut
  have reached :
      upper.length = min document.position.row document.lastRow := by
    rw [position_of_cut cut, lastRow_of_rows found]
    simp
  have column : document.position.column = left.length := by
    rw [position_of_cut cut]
  have landed :
      (closed newline upper).length +
          min document.position.column (left ++ right).length =
        document.cursor := by
    rw [cursor_of_cut cut inside, column, List.length_append]
    omega
  rw [moveTo_of_rows found reached, landed]

theorem position_row_le
    (document : Document) :
    document.position.row ≤ document.lastRow := by
  rcases document.exists_cut with ⟨upper, left, right, lower, cut⟩
  rw [position_of_cut cut, lastRow_of_rows (rows_of_cut cut)]
  exact Nat.le_add_right _ _

theorem position_column_le
    (document : Document) :
    document.position.column ≤
      document.rowLength document.position.row := by
  rcases document.exists_cut with ⟨upper, left, right, lower, cut⟩
  rw [position_of_cut cut, rowLength_of_rows (rows_of_cut cut),
    List.length_append]
  exact Nat.le_add_right _ _

end TerminalEditor.Document
