import TerminalEditor.Proofs.Buffer.Holding
import TerminalEditor.Proofs.Buffer.Landing

/-!
# Moving a buffer's cursor by rows

The rows above the cursor are found by the newlines before the gap, read
backwards, and the rows below it by the newlines after the gap.  Both searches
lead to the place that the document names by a row and a column, so each motion
of a buffer is the motion of the document it holds.
-/

namespace TerminalEditor

open Text

/-! ## Newlines and the rows they close -/

theorem newlineIndices_append
    (first second : Bytes) :
    newlineIndices (first ++ second) =
      newlineIndices first ++
        (newlineIndices second).map (first.length + ·) := by
  have shifted :
      second.zipIdx first.length =
        second.zipIdx.map fun entry =>
          (entry.1, first.length + entry.2) := by
    rw [List.zipIdx_eq_map_add]
  unfold newlineIndices
  rw [List.zipIdx_append, List.filterMap_append, Nat.zero_add, shifted,
    List.filterMap_map, List.map_filterMap]
  congr 2
  funext entry
  by_cases ends : entry.1 = newline <;> simp [ends]

theorem newlineIndices_of_free
    {run : Bytes}
    (free : newline ∉ run) :
    newlineIndices run = [] := by
  rw [newlineIndices, List.filterMap_eq_nil_iff]
  intro entry member
  have inside := List.fst_mem_of_mem_zipIdx member
  exact if_neg fun (same : entry.1 = newline) => free (same ▸ inside)

/-- A newline after a text stands at the text's length. -/
theorem newlineIndices_append_newline
    (first second : Bytes) :
    newlineIndices (first ++ newline :: second) =
      newlineIndices first ++ first.length ::
        (newlineIndices second).map (first.length + 1 + ·) := by
  have single : newlineIndices [newline] = [0] := rfl
  rw [← List.singleton_append, newlineIndices_append,
    newlineIndices_append, single]
  simp [Function.comp_def, Nat.add_assoc]

theorem length_newlineIndices
    (bytes : Bytes) :
    (newlineIndices bytes).length = bytes.count newline := by
  induction bytes with
  | nil => rfl
  | cons byte rest ih =>
    by_cases ends : byte = newline
    · subst ends
      have split := newlineIndices_append_newline [] rest
      rw [List.nil_append] at split
      rw [split, List.count_cons_self, ← ih]
      simp [newlineIndices]
    · have free : newline ∉ [byte] := by simpa using Ne.symm ends
      rw [← List.singleton_append, newlineIndices_append,
        newlineIndices_of_free free, List.count_append, ← ih,
        List.count_eq_zero_of_not_mem free]
      simp

/-- Runs that are closed end right after their last newline. -/
theorem after_last_newline
    (runs : List Bytes) :
    (newlineIndices (closed newline runs)).getLast?.elim 0 (· + 1) =
      (closed newline runs).length := by
  rcases List.eq_nil_or_concat runs with none | ⟨above, run, some⟩
  · simp [none, newlineIndices]
  · have split :
        closed newline runs =
          (closed newline above ++ run) ++ newline :: [] := by
      simp [some]
    rw [split, newlineIndices_append_newline]
    simp [newlineIndices, Nat.add_assoc]

/-- A run reaches to the next newline, or to the end of the text. -/
theorem next_newline
    {run : Bytes}
    (runs : List Bytes)
    (free : newline ∉ run) :
    (newlineIndices (run ++ opened newline runs)).head?.getD
        (run ++ opened newline runs).length =
      run.length := by
  cases runs with
  | nil => simp [newlineIndices_of_free free]
  | cons next runs =>
    rw [opened_cons, newlineIndices_append_newline,
      newlineIndices_of_free free]
    simp

namespace GapBuffer

variable
    {buffer : GapBuffer}
    {document : Document}
    {upper lower : List Bytes}
    {left right : Bytes}

/-! ## Reading positions -/

section cut

variable
    (holds : buffer.Holds document)
    (cut :
      Cut newline document.before document.after upper left right lower)

include holds cut

theorem row_of_cut :
    buffer.row = upper.length := by
  rw [row, holds.front_eq, cut.count_before]

theorem column_of_cut :
    buffer.column = left.length := by
  rw [column, holds.front_eq, cut.takeWhile_reverse_before,
    List.length_reverse]

theorem rowRemaining_of_cut :
    buffer.rowRemaining = right.length := by
  rw [rowRemaining, holds.back_eq, cut.takeWhile_after]

end cut

theorem Holds.position_eq
    (holds : buffer.Holds document) :
    buffer.position = document.position := by
  rcases document.exists_cut with ⟨upper, left, right, lower, cut⟩
  rw [position, row_of_cut holds cut, column_of_cut holds cut,
    Document.position_of_cut cut]

theorem Holds.rowRemaining_eq
    (holds : buffer.Holds document) :
    buffer.rowRemaining = document.rowRemaining := by
  rcases document.exists_cut with ⟨upper, left, right, lower, cut⟩
  rw [rowRemaining_of_cut holds cut, Document.rowRemaining_of_cut cut]

/-! ## The search for a row -/

section search

variable
    {above beyond : List Bytes}
    {run : Bytes}
    (holds : buffer.Holds document)

include holds

theorem distanceUp_of_top
    (cut : Cut newline document.before document.after [] left right lower)
    (rows : Nat) :
    buffer.distanceUp rows = .ok none := by
  have none : newlineIndices buffer.front = [] := by
    rw [holds.front_eq, cut.before_eq]
    exact newlineIndices_of_free cut.leftFree
  simp [distanceUp, none]

/-- The row searched for upwards is the one with `beyond` below it. -/
theorem distanceUp_of_cut
    {rows : Nat}
    (cut :
      Cut newline document.before document.after
        (above ++ run :: beyond) left right lower)
    (passed :
      min (rows - 1) (above.length + beyond.length) = beyond.length) :
    buffer.distanceUp rows =
      .ok
        (some
          (-((document.cursor -
            ((closed newline above).length +
              min left.length run.length) : Nat) : Int))) := by
  have beforeEq :
      document.before =
        (closed newline above ++ run) ++
          newline :: (closed newline beyond ++ left) := by
    rw [cut.before_eq]
    simp
  have beyondFree : ∀ other ∈ beyond, newline ∉ other := fun _ member =>
    cut.upperFree _ (by simp [member])
  have behind :
      (newlineIndices (closed newline beyond ++ left)).length =
        beyond.length := by
    rw [length_newlineIndices, List.count_append,
      count_closed beyondFree,
      List.count_eq_zero_of_not_mem cut.leftFree, Nat.add_zero]
  have counted :
      (newlineIndices document.before).length - 1 =
        above.length + beyond.length := by
    rw [length_newlineIndices, cut.count_before, List.length_append,
      List.length_cons]
    omega
  have runFree : newline ∉ run := cut.upperFree run (by simp)
  have found :
      (newlineIndices document.before).reverse.drop beyond.length =
        (closed newline above ++ run).length ::
          (newlineIndices (closed newline above)).reverse := by
    rw [beforeEq, newlineIndices_append_newline, List.reverse_append,
      List.reverse_cons, List.append_assoc,
      List.drop_left' (by simpa using behind), newlineIndices_append,
      newlineIndices_of_free runFree, List.map_nil, List.append_nil,
      List.singleton_append]
  have width :
      Checked.difference (closed newline above ++ run).length
          (closed newline above).length =
        .ok run.length := by
    rw [List.length_append, Checked.difference_of_le (by omega),
      Nat.add_sub_cancel_left]
  have landing :
      (closed newline above).length + min left.length run.length ≤
        document.cursor := by
    rw [Document.cursor_of_cut cut holds.inside, closed_append,
      List.length_append]
    omega
  have small :
      document.cursor -
          ((closed newline above).length + min left.length run.length) <
        Capacity.storageLimit := by
    have short :
        document.cursor -
            ((closed newline above).length + min left.length run.length) ≤
          document.bytes.length := by
      have inside := holds.inside
      omega
    exact Nat.lt_of_le_of_lt short holds.length_lt
  rw [distanceUp, column_of_cut holds cut, holds.length_front,
    holds.front_eq]
  simp only [List.length_reverse, counted, passed, found,
    List.head?_reverse, after_last_newline, width, Checked.ok_bind,
    Checked.difference_of_le landing, Distance.wrapped_of_lt small,
    Distance.reversed_of_nonneg (Int.natCast_nonneg _)]
  rfl

theorem distanceDown_of_bottom
    (cut : Cut newline document.before document.after upper left right [])
    (rows : Nat) :
    buffer.distanceDown rows = .ok none := by
  have none : newlineIndices buffer.back = [] := by
    rw [holds.back_eq, cut.after_eq, opened_nil, List.append_nil]
    exact newlineIndices_of_free cut.rightFree
  simp [distanceDown, none]

/-- The row searched for downwards is the one with `above` before it. -/
theorem distanceDown_of_cut
    {rows : Nat}
    (cut :
      Cut newline document.before document.after upper left right
        (above ++ run :: beyond))
    (passed :
      min (rows - 1) (above.length + beyond.length) = above.length) :
    buffer.distanceDown rows =
      .ok
        (some
          (right.length + (closed newline above).length + 1 +
            min left.length run.length : Nat)) := by
  have afterEq :
      document.after =
        (right ++ opened newline above) ++
          newline :: (run ++ opened newline beyond) := by
    rw [cut.after_eq]
    simp
  have aboveFree : ∀ other ∈ above, newline ∉ other := fun _ member =>
    cut.lowerFree _ (List.mem_append_left _ member)
  have runFree : newline ∉ run := cut.lowerFree run (by simp)
  have before :
      (newlineIndices (right ++ opened newline above)).length =
        above.length := by
    rw [length_newlineIndices, List.count_append,
      List.count_eq_zero_of_not_mem cut.rightFree,
      count_opened aboveFree, Nat.zero_add]
  have counted :
      (newlineIndices document.after).length - 1 =
        above.length + beyond.length := by
    rw [length_newlineIndices, cut.after_eq, List.count_append,
      List.count_eq_zero_of_not_mem cut.rightFree,
      count_opened cut.lowerFree, List.length_append, List.length_cons]
    omega
  have found :
      (newlineIndices document.after).drop above.length =
        (right ++ opened newline above).length ::
          (newlineIndices (run ++ opened newline beyond)).map
            ((right ++ opened newline above).length + 1 + ·) := by
    rw [afterEq, newlineIndices_append_newline, List.drop_left' before]
  have rowEnd :
      ((newlineIndices (run ++ opened newline beyond)).map
            ((right ++ opened newline above).length + 1 + ·)).head?.getD
          document.after.length =
        (right ++ opened newline above).length + 1 + run.length := by
    rw [← next_newline beyond runFree, List.head?_map, afterEq]
    cases (newlineIndices (run ++ opened newline beyond)).head? with
    | none => simp only [Option.map_none, Option.getD_none,
        List.length_append, List.length_cons]; omega
    | some index => rfl
  have width :
      Checked.difference
          ((right ++ opened newline above).length + 1 + run.length)
          ((right ++ opened newline above).length + 1) =
        .ok run.length := by
    rw [Checked.difference_of_le (by omega), Nat.add_sub_cancel_left]
  have small :
      (right ++ opened newline above).length + 1 +
          min left.length run.length <
        Capacity.storageLimit := by
    have short :
        (right ++ opened newline above).length + 1 +
            min left.length run.length ≤
          document.before.length + document.after.length := by
      rw [afterEq]
      simp only [List.length_append, List.length_cons]
      omega
    exact Nat.lt_of_le_of_lt short holds.layout.length_lt
  rw [distanceDown, column_of_cut holds cut, holds.back_eq]
  simp only [counted, passed, found, rowEnd, width, Checked.ok_bind,
    Distance.wrapped_of_lt small]
  rw [List.length_append, length_opened]
  rfl

end search

/-! ## Motions -/

/-- Two targets that are clamped to the same place are the same move. -/
theorem moveTo_congr
    {first second : Position}
    (sameRow :
      min first.row document.lastRow = min second.row document.lastRow)
    (sameColumn :
      min first.column
          (document.rowLength (min first.row document.lastRow)) =
        min second.column
          (document.rowLength (min first.row document.lastRow))) :
    document.moveTo first = document.moveTo second := by
  simp only [Document.moveTo, sameColumn]
  rw [sameRow]

/-- A buffer that stays has moved to where its cursor is. -/
theorem movesTo_self
    (holds : buffer.Holds document)
    {target : Position}
    (sameRow : min target.row document.lastRow = document.position.row)
    (sameColumn : target.column = document.position.column) :
    buffer.MovesTo (.ok buffer) (document.moveTo target) := by
  have rowLe := document.position_row_le
  have same :
      document.moveTo target = document.moveTo document.position := by
    apply moveTo_congr
    · omega
    · rw [sameColumn]
  rw [same, Document.moveTo_position holds.inside]
  exact ⟨buffer, rfl, rfl, holds⟩

/-- A shift that ends in a row that exists is a move to a place in it. -/
theorem movesTo_row
    {target : Position}
    {run : Bytes}
    {distance : Int}
    (holds : buffer.Holds document)
    (found : document.rows = upper ++ run :: lower)
    (reached : upper.length = min target.row document.lastRow)
    (distanceEq :
      document.cursor + distance =
        ((closed newline upper).length +
          min target.column run.length : Nat)) :
    buffer.MovesTo (return (← buffer.shift distance).2)
      (document.moveTo target) := by
  have inside := document.cursor_moveTo_le target
  rw [Document.moveTo_of_rows found reached] at inside ⊢
  exact movesTo_of_shift holds inside distanceEq

theorem movesTo_shiftRows_up
    (holds : buffer.Holds document)
    {rows : Int}
    (upwards : rows < 0) :
    buffer.MovesTo (buffer.shiftRows rows) (document.shiftRows rows) := by
  rcases document.exists_cut with ⟨upper, left, right, lower, cut⟩
  have positionEq := Document.position_of_cut cut
  have rowEq : document.position.row = upper.length := by rw [positionEq]
  have columnEq : document.position.column = left.length := by
    rw [positionEq]
  have cursorEq := Document.cursor_of_cut cut holds.inside
  have foundHere := Document.rows_of_cut cut
  have lastEq := Document.lastRow_of_rows foundHere
  rw [Document.shiftRows]
  generalize targetEq :
    Document.clamp document.lastRow (document.position.row + rows) =
      target
  rw [Document.clamp, rowEq] at targetEq
  by_cases top : upper.length = 0
  · have none : upper = [] := List.eq_nil_of_length_eq_zero top
    subst none
    simp only [shiftRows, if_pos upwards, distanceUp_of_top holds cut,
      Checked.ok_bind]
    apply movesTo_self holds
    · simp only [rowEq]
      omega
    · rfl
  -- The rows above are parted at the target, which the search stops at.
  · have inside : target < upper.length := by omega
    rcases exists_split inside with ⟨above, run, beyond, rfl, aboveLength⟩
    simp only [List.length_append, List.length_cons] at *
    have passed :
        min (rows.natAbs - 1) (above.length + beyond.length) =
          beyond.length := by
      omega
    simp only [shiftRows, if_pos upwards,
      distanceUp_of_cut holds cut passed, Checked.ok_bind]
    apply movesTo_row holds
      (show
        document.rows =
          above ++ run :: (beyond ++ (left ++ right) :: lower) by
        rw [foundHere]
        simp)
    · simp only
      omega
    · rw [columnEq, cursorEq, closed_append, List.length_append]
      omega

theorem movesTo_shiftRows_down
    (holds : buffer.Holds document)
    {rows : Int}
    (downwards : 0 < rows) :
    buffer.MovesTo (buffer.shiftRows rows) (document.shiftRows rows) := by
  rcases document.exists_cut with ⟨upper, left, right, lower, cut⟩
  have positionEq := Document.position_of_cut cut
  have rowEq : document.position.row = upper.length := by rw [positionEq]
  have columnEq : document.position.column = left.length := by
    rw [positionEq]
  have cursorEq := Document.cursor_of_cut cut holds.inside
  have foundHere := Document.rows_of_cut cut
  have lastEq := Document.lastRow_of_rows foundHere
  have notUp : ¬rows < 0 := by omega
  have notStill : ¬rows = 0 := by omega
  rw [Document.shiftRows]
  generalize targetEq :
    Document.clamp document.lastRow (document.position.row + rows) =
      target
  rw [Document.clamp, rowEq] at targetEq
  by_cases bottom : lower.length = 0
  · have none : lower = [] := List.eq_nil_of_length_eq_zero bottom
    subst none
    simp only [shiftRows, if_neg notUp, if_neg notStill,
      distanceDown_of_bottom holds cut, Checked.ok_bind]
    apply movesTo_self holds
    · simp only [rowEq]
      omega
    · rfl
  · have inside : target - upper.length - 1 < lower.length := by omega
    rcases exists_split inside with ⟨above, run, beyond, rfl, aboveLength⟩
    simp only [List.length_append, List.length_cons] at *
    have passed :
        min (rows.natAbs - 1) (above.length + beyond.length) =
          above.length := by
      omega
    simp only [shiftRows, if_neg notUp, if_neg notStill,
      distanceDown_of_cut holds cut passed, Checked.ok_bind]
    apply movesTo_row holds
      (show
        document.rows =
          (upper ++ (left ++ right) :: above) ++ run :: beyond by
        rw [foundHere]
        simp)
    · simp only [List.length_append, List.length_cons]
      omega
    · simp only [columnEq, cursorEq, closed_append, closed_cons,
        List.length_append, List.length_cons]
      omega

/-- Moving by rows keeps the column where it can. -/
theorem movesTo_shiftRows
    (holds : buffer.Holds document)
    (rows : Int) :
    buffer.MovesTo (buffer.shiftRows rows) (document.shiftRows rows) := by
  rcases Int.lt_trichotomy rows 0 with upwards | still | downwards
  · exact movesTo_shiftRows_up holds upwards
  · subst still
    have rowLe := document.position_row_le
    rw [shiftRows_zero, Document.shiftRows, Document.clamp]
    apply movesTo_self holds
    · simp only
      omega
    · rfl
  · exact movesTo_shiftRows_down holds downwards

/-- Inside its row the cursor moves as far as the row reaches. -/
theorem movesTo_shiftInRow
    (holds : buffer.Holds document)
    (distance : Int) :
    buffer.MovesTo (buffer.shiftInRow distance)
      (document.moveTo
        ⟨document.position.row,
          (document.position.column + distance).toNat⟩) := by
  rcases document.exists_cut with ⟨upper, left, right, lower, cut⟩
  have positionEq := Document.position_of_cut cut
  have cursorEq := Document.cursor_of_cut cut holds.inside
  have foundHere := Document.rows_of_cut cut
  have lastEq := Document.lastRow_of_rows foundHere
  have ordered : -(left.length : Int) ≤ right.length := by omega
  have leftSmall : left.length < Capacity.storageLimit := by
    have short : left.length ≤ document.bytes.length := by
      have inside := holds.inside
      omega
    exact Nat.lt_of_le_of_lt short holds.length_lt
  have rightSmall : right.length < Capacity.storageLimit := by
    have short : right.length ≤ document.after.length := by
      rw [cut.after_eq, List.length_append]
      exact Nat.le_add_right _ _
    have small := holds.layout.length_lt
    exact Nat.lt_of_le_of_lt (Nat.le_trans short (Nat.le_add_left _ _)) small
  rw [shiftInRow, column_of_cut holds cut, rowRemaining_of_cut holds cut,
    positionEq]
  simp only [Distance.wrapped_of_lt leftSmall,
    Distance.wrapped_of_lt rightSmall,
    Distance.reversed_of_nonneg (Int.natCast_nonneg _),
    Distance.within_of_le ordered, Checked.ok_bind]
  apply movesTo_row holds foundHere
  · simp only [lastEq]
    omega
  · simp only [cursorEq, List.length_append]
    omega

/-! ## Distances cut at 64 bits -/

/-- A place that can exist is reached although its distance is cut. -/
theorem toNat_add_cut
    {bound source : Nat}
    (small : bound < Capacity.storageLimit)
    (inside : source ≤ bound)
    (target : Nat) :
    min (source + Distance.cut (target - source)).toNat bound =
      min target bound := by
  have limit : Capacity.storageLimit = 9223372036854775808 := rfl
  rw [Distance.cut, Distance.least, Distance.greatest]
  omega

theorem ofCount_eq
    {count : Nat}
    (small : count < Capacity.storageLimit) :
    Distance.ofCount count = count := by
  have limit : Capacity.storageLimit = 9223372036854775808 := rfl
  rw [Distance.ofCount, Distance.greatest]
  omega

theorem ofCount_nonneg (count : Nat) :
    0 ≤ Distance.ofCount count := by
  rw [Distance.ofCount, Distance.greatest]
  omega

/-- A page is at least as long as the text if its length had to be cut. -/
theorem clamp_add_ofCount
    {bound row : Nat}
    (small : bound < Capacity.storageLimit)
    (rows : Nat) :
    Document.clamp bound (row + Distance.ofCount rows) =
      Document.clamp bound (row + rows) := by
  have limit : Capacity.storageLimit = 9223372036854775808 := rfl
  rw [Document.clamp, Document.clamp, Distance.ofCount,
    Distance.greatest]
  omega

theorem clamp_sub_ofCount
    {bound row : Nat}
    (small : bound < Capacity.storageLimit)
    (inside : row ≤ bound)
    (rows : Nat) :
    Document.clamp bound (row + -Distance.ofCount rows) =
      Document.clamp bound (row + -rows) := by
  have limit : Capacity.storageLimit = 9223372036854775808 := rfl
  rw [Document.clamp, Document.clamp, Distance.ofCount,
    Distance.greatest]
  omega

/-- A cut way to a row leads to the same row. -/
theorem shiftRows_cut
    (document : Document)
    (small : document.bytes.length < Capacity.storageLimit)
    (target : Nat) :
    document.shiftRows (Distance.cut (target - document.position.row)) =
      document.moveTo
        ⟨min target document.lastRow, document.position.column⟩ := by
  have lastSmall := Nat.lt_of_le_of_lt document.lastRow_le small
  rw [Document.shiftRows, Document.clamp, Nat.min_comm,
    toNat_add_cut lastSmall document.position_row_le]

/-- A cut way to a column leads to the same column of the row. -/
theorem movesTo_column
    (holds : buffer.Holds document)
    (column : Nat) :
    buffer.MovesTo
      (buffer.shiftInRow (Distance.cut (column - buffer.column)))
      (document.moveTo ⟨document.position.row, column⟩) := by
  have columnEq : buffer.column = document.position.column := by
    rw [← position_column, holds.position_eq]
  have rowLe := document.position_row_le
  have small :
      document.rowLength document.position.row <
        Capacity.storageLimit :=
    Nat.lt_of_le_of_lt (document.rowLength_le rowLe) holds.length_lt
  have same :
      document.moveTo ⟨document.position.row, column⟩ =
        document.moveTo
          ⟨document.position.row,
            (document.position.column +
              Distance.cut (column - document.position.column)).toNat⟩ := by
    apply moveTo_congr
    · rfl
    · simp only [Nat.min_eq_left rowLe]
      rw [toNat_add_cut small document.position_column_le]
  rw [columnEq, same]
  exact movesTo_shiftInRow holds _

/-- One move after another is a move. -/
theorem MovesTo.trans
    {middle last : Document}
    {first : Checked GapBuffer}
    {second : GapBuffer → Checked GapBuffer}
    (start : buffer.MovesTo first middle)
    (continues :
      ∀ moved : GapBuffer,
        moved.Holds middle → moved.MovesTo (second moved) last) :
    buffer.MovesTo (first >>= second) last := by
  rcases start with ⟨moved, moves, capacityEq, movedHolds⟩
  rcases continues moved movedHolds with
    ⟨final, movesOn, finalCapacityEq, finalHolds⟩
  refine ⟨final, ?_, finalCapacityEq.trans capacityEq, finalHolds⟩
  rw [moves, Checked.ok_bind, movesOn]

/--
The three moves of the column, of the row, and of the column again lead to the
target, although the first may stop at the end of a shorter row.
-/
theorem movesTo_moveTo
    (holds : buffer.Holds document)
    (target : Position) :
    buffer.MovesTo (buffer.moveTo target) (document.moveTo target) := by
  have rowLe := document.position_row_le
  have rowEq : buffer.position.row = document.position.row := by
    rw [holds.position_eq]
  let inColumn :=
    document.moveTo ⟨document.position.row, target.column⟩
  let inRow :=
    inColumn.shiftRows
      (Distance.cut (target.row - document.position.row))
  have sameRow : inColumn.position.row = document.position.row := by
    rw [Document.position_moveTo]
    exact Nat.min_eq_left rowLe
  have inRowEq :
      inRow =
        document.moveTo
          ⟨min target.row document.lastRow, inColumn.position.column⟩ := by
    have moved :=
      shiftRows_cut inColumn holds.length_lt target.row
    rwa [sameRow] at moved
  have landed :
      inRow.moveTo ⟨inRow.position.row, target.column⟩ =
        document.moveTo target := by
    generalize inColumn.position.column = column at inRowEq
    rw [inRowEq, Document.position_moveTo, Document.moveTo_moveTo]
    apply moveTo_congr
    · simp only
      omega
    · rfl
  simp only [moveTo, rowEq, Distance.between_eq, Checked.ok_bind]
  apply MovesTo.trans (movesTo_column holds target.column)
  intro moved movedHolds
  apply MovesTo.trans (movesTo_shiftRows movedHolds _)
  intro movedAgain movedAgainHolds
  exact landed ▸ movesTo_column movedAgainHolds target.column

/-- Every motion of a buffer is the motion of the document it holds. -/
theorem movesTo_navigate
    (holds : buffer.Holds document)
    (motion : Motion) :
    buffer.MovesTo (buffer.navigate motion)
      (document.navigate motion) := by
  rcases document.exists_cut with ⟨upper, left, right, lower, cut⟩
  have positionEq := Document.position_of_cut cut
  have cursorEq := Document.cursor_of_cut cut holds.inside
  have found := Document.rows_of_cut cut
  have lastEq := Document.lastRow_of_rows found
  have small := holds.length_lt
  have rowSmall :=
    Nat.lt_of_le_of_lt
      (document.rowLength_le document.position_row_le) small
  rw [positionEq, Document.rowLength_of_rows found,
    List.length_append] at rowSmall
  have lastSmall := Nat.lt_of_le_of_lt document.lastRow_le small
  cases motion with
  | left =>
    rcases holds_shift holds (-1) with
      ⟨shifted, shifts, capacityEq, shiftedHolds⟩
    exact ⟨shifted, by simp [navigate, shifts], capacityEq, shiftedHolds⟩
  | right =>
    rcases holds_shift holds 1 with
      ⟨shifted, shifts, capacityEq, shiftedHolds⟩
    exact ⟨shifted, by simp [navigate, shifts], capacityEq, shiftedHolds⟩
  | up => exact movesTo_shiftRows holds (-1)
  | down => exact movesTo_shiftRows holds 1
  | lineStart =>
    rw [navigate, Document.navigate, column_of_cut holds cut,
      ofCount_eq (by omega),
      Distance.reversed_of_nonneg (Int.natCast_nonneg _), Checked.ok_bind]
    apply movesTo_row holds found
    · simp only [positionEq, lastEq]
      omega
    · simp only [cursorEq]
      omega
  | lineEnd =>
    rw [navigate, Document.navigate, rowRemaining_of_cut holds cut,
      ofCount_eq (by omega)]
    apply movesTo_row holds found
    · simp only [positionEq, lastEq]
      omega
    · simp only [positionEq, Document.rowLength_of_rows found, cursorEq,
        List.length_append]
      omega
  | pageUp rows =>
    have same :
        document.navigate (.pageUp rows) =
          document.shiftRows (-Distance.ofCount rows) := by
      rw [Document.navigate, Document.shiftRows, Document.shiftRows,
        clamp_sub_ofCount lastSmall document.position_row_le]
    rw [navigate, Distance.reversed_of_nonneg (ofCount_nonneg rows),
      Checked.ok_bind]
    exact same ▸ movesTo_shiftRows holds _
  | pageDown rows =>
    have same :
        document.navigate (.pageDown rows) =
          document.shiftRows (Distance.ofCount rows) := by
      rw [Document.navigate, Document.shiftRows, Document.shiftRows,
        clamp_add_ofCount lastSmall]
    exact same ▸ movesTo_shiftRows holds _
  | _ => exact movesTo_moveTo holds _

end GapBuffer

end TerminalEditor
