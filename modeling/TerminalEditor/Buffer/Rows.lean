import TerminalEditor.Buffer.Basic
import TerminalEditor.Position

/-!
# Rows and columns of a gap buffer

A newline ends a row.  The cursor's row and column are counted in the text
before it.  Moving by rows looks for newlines on one side of the cursor, keeps
the column as far as the row it lands in is long, and does nothing where there
is no newline.
-/

namespace TerminalEditor

/-- The indices at which a newline stands, in ascending order. -/
def newlineIndices (bytes : Bytes) : List Nat :=
  bytes.zipIdx.filterMap fun entry =>
    if entry.1 = newline then some entry.2 else none

namespace GapBuffer

/-- The number of newlines before the cursor. -/
def row (buffer : GapBuffer) : Nat :=
  buffer.front.count newline

/-- The number of bytes between the start of the row and the cursor. -/
def column (buffer : GapBuffer) : Nat :=
  (buffer.front.reverse.takeWhile (· != newline)).length

/-- The number of bytes between the cursor and the end of its row. -/
def rowRemaining (buffer : GapBuffer) : Nat :=
  (buffer.back.takeWhile (· != newline)).length

/-- The cursor's row and column. -/
def position (buffer : GapBuffer) : Position :=
  ⟨buffer.row, buffer.column⟩

/--
The distance to the place `rows` rows up, or to the one on the first row if
there are fewer.  There is none when the cursor stands on the first row.
-/
def distanceUp
    (buffer : GapBuffer)
    (rows : Nat) :
    Checked (Option Int) :=
  let newlines := (newlineIndices buffer.front).reverse
  let passed := min (rows - 1) (newlines.length - 1)
  match newlines.drop passed with
  | [] => pure none
  | rowEnd :: above => do
    let rowStart := above.head?.elim 0 (· + 1)
    let width ← Checked.difference rowEnd rowStart
    let landing := rowStart + min buffer.column width
    let distance ← Checked.difference buffer.front.length landing
    pure (some (← Distance.reversed (Distance.wrapped distance)))

/--
The distance to the place `rows` rows down, or to the one on the last row if
there are fewer.  There is none when the cursor stands on the last row.
-/
def distanceDown
    (buffer : GapBuffer)
    (rows : Nat) :
    Checked (Option Int) :=
  let newlines := newlineIndices buffer.back
  let passed := min (rows - 1) (newlines.length - 1)
  match newlines.drop passed with
  | [] => pure none
  | before :: below => do
    let rowStart := before + 1
    let rowEnd := below.head?.getD buffer.back.length
    let width ← Checked.difference rowEnd rowStart
    pure (some (Distance.wrapped (rowStart + min buffer.column width)))

/--
The cursor moved up or down by rows, keeping its column as far as the row it
lands in allows.  The row is clamped to the ones that exist.
-/
def shiftRows
    (buffer : GapBuffer)
    (rows : Int) :
    Checked GapBuffer := do
  let distance ←
    if rows < 0 then
      buffer.distanceUp rows.natAbs
    else if rows = 0 then
      pure none
    else
      buffer.distanceDown rows.natAbs
  match distance with
  | none => pure buffer
  | some distance => return (← buffer.shift distance).2

/-- The cursor moved inside its row only. -/
def shiftInRow
    (buffer : GapBuffer)
    (distance : Int) :
    Checked GapBuffer := do
  let leftmost ← Distance.reversed (Distance.wrapped buffer.column)
  let rightmost := Distance.wrapped buffer.rowRemaining
  let inRow ← Distance.within leftmost rightmost distance
  return (← buffer.shift inRow).2

/--
The cursor moved to a position, or as near to it as the text allows: to the
last row if the row does not exist, and to the end of the row if that is
shorter than the column.
-/
def moveTo
    (buffer : GapBuffer)
    (target : Position) :
    Checked GapBuffer := do
  let current := buffer.position
  let inColumn ←
    buffer.shiftInRow
      (← Distance.between current.column target.column)
  let inRow ←
    inColumn.shiftRows (← Distance.between current.row target.row)
  -- The row reached may be shorter than the one left.
  inRow.shiftInRow
    (← Distance.between inRow.column target.column)

@[simp]
theorem position_row
    (buffer : GapBuffer) :
    buffer.position.row = buffer.row :=
  rfl

@[simp]
theorem position_column
    (buffer : GapBuffer) :
    buffer.position.column = buffer.column :=
  rfl

@[simp]
theorem shiftRows_zero
    (buffer : GapBuffer) :
    buffer.shiftRows 0 = .ok buffer :=
  rfl

end GapBuffer

end TerminalEditor
