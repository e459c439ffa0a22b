import TerminalEditor.Proofs.Buffer.Places

/-!
# Moves by rows, one after the other

A move by rows leads to the row that it asks for, or to the first or the last
one if there is no such row, and keeps the column as far as that row is long.
So moves one after the other lead to the last of the rows that they come to, and
the column is cut by each of these rows.
-/

namespace TerminalEditor

/-- A move of the cursor by rows. -/
inductive RowMove
  | shift (rows : Int)
  | up
  | down
  | pageUp (rows : Nat)
  | pageDown (rows : Nat)
  deriving DecidableEq, Repr

namespace RowMove

/-- The number of rows that a move asks for, which is negative upwards. -/
def rows : RowMove → Int
  | .shift rows => rows
  | .up => -1
  | .down => 1
  | .pageUp rows => -rows
  | .pageDown rows => rows

/-- The buffer after a move by rows. -/
def onBuffer
    (buffer : GapBuffer) :
    RowMove → Checked GapBuffer
  | .shift rows => buffer.shiftRows rows
  | .up => buffer.navigate .up
  | .down => buffer.navigate .down
  | .pageUp rows => buffer.navigate (.pageUp rows)
  | .pageDown rows => buffer.navigate (.pageDown rows)

/-- The rows that moves come to, one after the other. -/
def visited
    (lastRow row : Nat) :
    List RowMove → List Nat
  | [] => []
  | move :: later =>
    let next := Document.clamp lastRow (row + move.rows)
    next :: visited lastRow next later

end RowMove

/-! ## Moves of a document -/

namespace Document

variable {document : Document}

/-- The document after moves by rows, one after the other. -/
def moveRows
    (document : Document) :
    List RowMove → Document
  | [] => document
  | move :: later => (document.shiftRows move.rows).moveRows later

theorem bytes_moveRows
    (document : Document)
    (moves : List RowMove) :
    (document.moveRows moves).bytes = document.bytes := by
  induction moves generalizing document with
  | nil => rfl
  | cons move later ih => exact ih (document.shiftRows move.rows)

/-- A move by rows cuts the column at the end of the row that it comes to. -/
theorem position_shiftRows
    (document : Document)
    (rows : Int) :
    (document.shiftRows rows).position =
      ⟨clamp document.lastRow (document.position.row + rows),
        min document.position.column
          (document.rowLength
            (clamp document.lastRow (document.position.row + rows)))⟩ := by
  rw [shiftRows, position_moveTo,
    Nat.min_eq_left (clamp_le document.lastRow _)]

/-- Moves lead to the last row they come to, cut by all of these rows. -/
theorem position_moveRows
    (document : Document)
    (moves : List RowMove) :
    (document.moveRows moves).position =
      ⟨(RowMove.visited document.lastRow document.position.row
          moves).getLastD document.position.row,
        ((RowMove.visited document.lastRow document.position.row
          moves).map document.rowLength).foldl min
            document.position.column⟩ := by
  induction moves generalizing document with
  | nil => rfl
  | cons move later ih =>
    rw [moveRows, ih, position_shiftRows, RowMove.visited,
      List.getLastD_cons]
    rfl

/-- A move that comes to the row it starts from changes nothing. -/
theorem shiftRows_of_stays
    {rows : Int}
    (inside : document.cursor ≤ document.bytes.length)
    (stays :
      clamp document.lastRow (document.position.row + rows) =
        document.position.row) :
    document.shiftRows rows = document := by
  rw [shiftRows, stays]
  exact moveTo_position inside

/-- Moves down row by row are cut by every row that they pass. -/
theorem position_moveRows_down
    (inside : document.cursor ≤ document.bytes.length)
    (count : Nat) :
    (document.moveRows (List.replicate count .down)).position =
      ⟨min (document.position.row + count) document.lastRow,
        ((List.range' (document.position.row + 1)
            (min count (document.lastRow - document.position.row))).map
          document.rowLength).foldl min document.position.column⟩ := by
  have rowLe := document.position_row_le
  induction count generalizing document with
  | zero =>
    rw [Nat.zero_min, Nat.add_zero, Nat.min_eq_left rowLe]
    rfl
  | succ count ih =>
    rw [List.replicate_succ, moveRows]
    by_cases further : document.position.row < document.lastRow
    · have below :
          clamp document.lastRow
              (document.position.row + RowMove.down.rows) =
            document.position.row + 1 := by
        rw [clamp, RowMove.rows]
        omega
      have next := position_shiftRows document RowMove.down.rows
      rw [below] at next
      have passed :
          min (count + 1) (document.lastRow - document.position.row) =
            min count (document.lastRow - (document.position.row + 1)) +
              1 := by
        omega
      have nextInside :
          (document.shiftRows RowMove.down.rows).cursor ≤
            document.bytes.length :=
        cursor_moveTo_le document _
      rw [ih nextInside (position_row_le _), next, passed,
        List.range'_succ, Nat.add_right_comm, Nat.add_assoc]
      rfl
    -- The last row is not left, and no row is passed from there on.
    · have stays :
          clamp document.lastRow
              (document.position.row + RowMove.down.rows) =
            document.position.row := by
        rw [clamp, RowMove.rows]
        omega
      have none : document.lastRow - document.position.row = 0 := by
        omega
      rw [shiftRows_of_stays inside stays, ih inside rowLe, none,
        Nat.min_zero, Nat.min_zero]
      congr 1
      omega

section away

variable
    {away : Int}
    (first : 0 ≤ document.position.row + away)
    (last : document.position.row + away ≤ document.lastRow)

include first last

theorem clamp_of_present :
    (clamp document.lastRow (document.position.row + away) : Int) =
      document.position.row + away := by
  rw [clamp]
  omega

/-- A move to a row that exists and back is cut by that row. -/
theorem shiftRows_shiftRows_neg :
    (document.shiftRows away).shiftRows (-away) =
      document.moveTo
        ⟨document.position.row,
          min document.position.column
            (document.rowLength
              (clamp document.lastRow
                (document.position.row + away)))⟩ := by
  have rowLe := document.position_row_le
  have sameLast : (document.shiftRows away).lastRow = document.lastRow :=
    rfl
  have reached := clamp_of_present first last
  rw [shiftRows, position_shiftRows, sameLast]
  generalize
    clamp document.lastRow (document.position.row + away) = there at *
  have back :
      clamp document.lastRow (there + -away) = document.position.row := by
    rw [clamp]
    omega
  simp only [back]
  rfl

/-- A row that is long enough for the column is left to the same place. -/
theorem shiftRows_shiftRows_neg_of_le
    (inside : document.cursor ≤ document.bytes.length)
    (long :
      document.position.column ≤
        document.rowLength (document.shiftRows away).position.row) :
    (document.shiftRows away).shiftRows (-away) = document := by
  rw [position_shiftRows] at long
  rw [shiftRows_shiftRows_neg first last, Nat.min_eq_left long]
  exact moveTo_position inside

/-- A place that is come back to has its column in the row between. -/
theorem column_le_of_position_eq
    (returns :
      ((document.shiftRows away).shiftRows (-away)).position =
        document.position) :
    document.position.column ≤
      document.rowLength (document.shiftRows away).position.row := by
  rw [shiftRows_shiftRows_neg first last, position_moveTo] at returns
  have columnEq := congrArg Position.column returns
  rw [position_shiftRows]
  simp only at columnEq ⊢
  omega

end away

end Document

/-! ## Moves of a buffer -/

namespace GapBuffer

variable
    {buffer : GapBuffer}
    {document : Document}

/-- The buffer after moves by rows, one after the other. -/
def moveRows
    (buffer : GapBuffer) :
    List RowMove → Checked GapBuffer
  | [] => pure buffer
  | move :: later => do (← move.onBuffer buffer).moveRows later

/-- However a move by rows is asked for, it is the move of the document. -/
theorem movesTo_onBuffer
    (holds : buffer.Holds document)
    (move : RowMove) :
    buffer.MovesTo (move.onBuffer buffer)
      (document.shiftRows move.rows) := by
  cases move with
  | shift rows => exact movesTo_shiftRows holds rows
  | up => exact movesTo_navigate holds .up
  | down => exact movesTo_navigate holds .down
  | pageUp rows => exact movesTo_navigate holds (.pageUp rows)
  | pageDown rows => exact movesTo_navigate holds (.pageDown rows)

theorem movesTo_moveRows
    (holds : buffer.Holds document)
    (moves : List RowMove) :
    buffer.MovesTo (buffer.moveRows moves) (document.moveRows moves) := by
  induction moves generalizing buffer document with
  | nil => exact ⟨buffer, rfl, rfl, holds⟩
  | cons move later ih =>
    apply MovesTo.trans (movesTo_onBuffer holds move)
    intro moved movedHolds
    exact ih movedHolds

/-- A buffer that is moved to its own document is left as it is. -/
theorem MovesTo.eq_ok
    {result : Checked GapBuffer}
    (moves : buffer.MovesTo result document)
    (holds : buffer.Holds document) :
    result = .ok buffer := by
  rcases moves with ⟨moved, rfl, capacityEq, movedHolds⟩
  rw [holds.eq_of_capacity movedHolds capacityEq]

end GapBuffer

/--
Moves by rows, one after the other, lead to the last row that they come to, at
the column cut by all the rows that they come to, and leave the text as it is.
So moves down one by one lead to the row that one move of a page leads to, but
the column is cut by every row on the way.  A move to a row that exists and a
move back by as many rows leave the buffer as it was exactly if the cursor's
column is in the row between; and a move past the first or the last row from
there leaves it as it was.
-/
theorem row_moves_of_used_buffer
    {capacity : Nat}
    {uses : List TextUse}
    {empty buffer : GapBuffer}
    (created : GapBuffer.withCapacity capacity = .ok empty)
    (used : empty.useAll uses = .ok buffer) :
    let document := buffer.document
    let row := buffer.position.row
    let column := buffer.position.column
    (∀ moves : List RowMove,
      let visited := RowMove.visited document.lastRow row moves
      ∃ moved : GapBuffer,
        buffer.moveRows moves = .ok moved ∧
          moved.bytes = buffer.bytes ∧
          moved.capacity = buffer.capacity ∧
          moved.position =
            ⟨visited.getLastD row,
              (visited.map document.rowLength).foldl min column⟩) ∧
    (∀ count : Nat,
      let reached := min (row + count) document.lastRow
      let passed :=
        List.range' (row + 1) (min count (document.lastRow - row))
      ∃ stepped paged : GapBuffer,
        buffer.moveRows (List.replicate count .down) = .ok stepped ∧
          RowMove.onBuffer buffer (.pageDown count) = .ok paged ∧
          stepped.position =
            ⟨reached,
              (passed.map document.rowLength).foldl min column⟩ ∧
          paged.position =
            ⟨reached, min column (document.rowLength reached)⟩) ∧
    (∀ away back : RowMove,
      back.rows = -away.rows →
      0 ≤ row + away.rows →
      row + away.rows ≤ document.lastRow →
        ∃ there returned : GapBuffer,
          away.onBuffer buffer = .ok there ∧
            back.onBuffer there = .ok returned ∧
            there.position.row = row + away.rows ∧
            (column ≤ document.rowLength there.position.row →
              returned = buffer) ∧
            (returned.position = buffer.position →
              column ≤ document.rowLength there.position.row)) ∧
    ∀ move : RowMove,
      row = 0 ∧ move.rows ≤ 0 ∨
          row = document.lastRow ∧ 0 ≤ move.rows →
        move.onBuffer buffer = .ok buffer := by
  intro document row column
  rcases GapBuffer.holds_of_withCapacity created with ⟨-, emptyHolds⟩
  rcases emptyHolds.exists_of_useAll uses used with ⟨held, holds⟩
  have same : held = document := holds.document_eq.symm
  subst same
  have positionEq : document.position = buffer.position :=
    holds.position_eq.symm
  have rowEq : document.position.row = row :=
    congrArg Position.row positionEq
  have columnEq : document.position.column = column :=
    congrArg Position.column positionEq
  have rowLe := document.position_row_le
  rw [rowEq] at rowLe
  refine ⟨?_, ?_, ?_, ?_⟩
  · intro moves visited
    rcases GapBuffer.movesTo_moveRows holds moves with
      ⟨moved, moves, capacityEq, movedHolds⟩
    refine ⟨moved, moves, ?_, capacityEq, ?_⟩
    · rw [movedHolds.bytes_eq, Document.bytes_moveRows, holds.bytes_eq]
    · rw [movedHolds.position_eq, Document.position_moveRows, rowEq,
        columnEq]
  · intro count reached passed
    rcases GapBuffer.movesTo_moveRows holds (List.replicate count .down)
      with ⟨stepped, steps, -, steppedHolds⟩
    rcases GapBuffer.movesTo_onBuffer holds (.pageDown count) with
      ⟨paged, pages, -, pagedHolds⟩
    refine ⟨stepped, paged, steps, pages, ?_, ?_⟩
    · rw [steppedHolds.position_eq,
        Document.position_moveRows_down holds.inside, rowEq, columnEq]
    · have reachedEq :
          Document.clamp document.lastRow
              (row + (RowMove.pageDown count).rows) =
            reached := by
        rw [Document.clamp, RowMove.rows]
        omega
      rw [pagedHolds.position_eq, Document.position_shiftRows, rowEq,
        columnEq, reachedEq]
  · intro away back opposite first last
    rcases GapBuffer.movesTo_onBuffer holds away with
      ⟨there, goes, thereCapacity, thereHolds⟩
    rcases GapBuffer.movesTo_onBuffer thereHolds back with
      ⟨returned, returns, returnedCapacity, returnedHolds⟩
    rw [← rowEq] at first last
    rw [opposite] at returnedHolds
    refine ⟨there, returned, goes, returns, ?_, ?_, ?_⟩
    · rw [thereHolds.position_eq, Document.position_shiftRows, ← rowEq]
      exact Document.clamp_of_present first last
    · intro long
      rw [thereHolds.position_eq, ← columnEq] at long
      rw [Document.shiftRows_shiftRows_neg_of_le first last holds.inside
        long] at returnedHolds
      exact
        holds.eq_of_capacity returnedHolds
          (returnedCapacity.trans thereCapacity)
    · intro samePosition
      rw [returnedHolds.position_eq, ← positionEq] at samePosition
      rw [thereHolds.position_eq, ← columnEq]
      exact Document.column_le_of_position_eq first last samePosition
  · intro move edge
    have stays :
        Document.clamp document.lastRow
            (document.position.row + move.rows) =
          document.position.row := by
      rw [Document.clamp, rowEq]
      omega
    have moves := GapBuffer.movesTo_onBuffer holds move
    rw [Document.shiftRows_of_stays holds.inside stays] at moves
    exact moves.eq_ok holds

/-- A row of one byte and an empty row lie between two longer ones. -/
theorem row_moves_over_short_rows :
    ∃ empty buffer : GapBuffer,
      GapBuffer.withCapacity 4 = .ok empty ∧
        empty.useAll
            [.insert [97, 98, 99, 100, 10, 101, 10, 10, 102, 103, 104],
              .moveTo ⟨0, 3⟩] =
          .ok buffer ∧
        (∃ moved : GapBuffer,
          buffer.moveRows [.pageDown 9, .shift (-2), .up] = .ok moved ∧
            moved.position = ⟨0, 1⟩) ∧
        (∃ stepped paged : GapBuffer,
          buffer.moveRows (List.replicate 9 .down) = .ok stepped ∧
            RowMove.onBuffer buffer (.pageDown 9) = .ok paged ∧
            stepped.position = ⟨3, 0⟩ ∧ paged.position = ⟨3, 3⟩) ∧
        (∃ there : GapBuffer,
          RowMove.onBuffer buffer (.pageDown 3) = .ok there ∧
            RowMove.onBuffer there (.pageUp 3) = .ok buffer) ∧
        (∃ there returned : GapBuffer,
          RowMove.onBuffer buffer .down = .ok there ∧
            RowMove.onBuffer there .up = .ok returned ∧
            returned.position ≠ buffer.position) ∧
        RowMove.onBuffer buffer .up = .ok buffer := by
  have created :
      GapBuffer.withCapacity 4 =
        .ok ⟨Storage.zeros 4, { start := 0, stop := 4 }⟩ :=
    rfl
  have used :
      GapBuffer.useAll ⟨Storage.zeros 4, { start := 0, stop := 4 }⟩
          [.insert [97, 98, 99, 100, 10, 101, 10, 10, 102, 103, 104],
            .moveTo ⟨0, 3⟩] =
        .ok
          ⟨#[97, 98, 99, 0, 0, 0, 0, 0, 100, 10, 101, 10, 10, 102, 103, 104],
            { start := 3, stop := 8 }⟩ := by
    decide +kernel
  rcases row_moves_of_used_buffer created used with
    ⟨moves, steps, returns, stays⟩
  rcases moves [.pageDown 9, .shift (-2), .up] with
    ⟨moved, movesAll, -, -, movedEq⟩
  rcases steps 9 with ⟨stepped, paged, stepsDown, pages, steppedEq, pagedEq⟩
  rcases returns (.pageDown 3) (.pageUp 3) rfl (by decide) (by decide) with
    ⟨far, returned, goesFar, comesBack, farRow, long, -⟩
  rcases returns .down .up rfl (by decide) (by decide) with
    ⟨near, other, goesDown, goesUp, nearRow, -, short⟩
  rw [show far.position.row = 3 from Int.ofNat.inj farRow] at long
  rw [show near.position.row = 1 from Int.ofNat.inj nearRow] at short
  rw [long (by decide)] at comesBack
  refine
    ⟨_, _, created, used, ⟨moved, movesAll, movedEq⟩,
      ⟨stepped, paged, stepsDown, pages, steppedEq, pagedEq⟩,
      ⟨far, goesFar, comesBack⟩,
      ⟨near, other, goesDown, goesUp, ?_⟩,
      stays .up (Or.inl ⟨by decide, by decide⟩)⟩
  intro samePosition
  exact absurd (short samePosition) (by decide)

end TerminalEditor
