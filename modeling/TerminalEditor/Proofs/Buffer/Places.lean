import Mathlib.Order.Bounds.Basic
import TerminalEditor.Proofs.Buffer.Integrity

/-!
# Places in a text

A place in a text is named by an offset, which is the number of bytes before
it, and by a position.  Each row starts after the end of the row above, so both
names are in the same order, and a place is at most a target exactly if it is
not behind the place where a move to the target lands.  So that place is the
last one that is at most the target, wherever the move starts.
-/

namespace TerminalEditor

namespace Position

variable {first second third : Position}

theorem not_le_iff :
    ¬ first ≤ second ↔ second < first := by
  rw [le_iff, lt_iff]
  omega

theorem le_trans
    (before : first ≤ second)
    (behind : second ≤ third) :
    first ≤ third := by
  rw [le_iff] at *
  omega

theorem row_le_of_le
    (ordered : first ≤ second) :
    first.row ≤ second.row := by
  rcases ordered with above | same
  · exact Nat.le_of_lt above
  · exact Nat.le_of_eq same.1

end Position

/-! ## Places of a document -/

namespace Document

open Text

variable
    {document : Document}
    {target : Position}

/-- A row starts behind the newline of the row above it. -/
theorem rowStart_succ
    {row : Nat}
    (present : row < document.lastRow) :
    document.rowStart (row + 1) =
      document.rowStart row + document.rowLength row + 1 := by
  rcases document.exists_rows (Nat.le_of_lt present) with
    ⟨upper, run, lower, found, rfl⟩
  cases lower with
  | nil =>
    rw [lastRow_of_rows found] at present
    exact absurd present (Nat.lt_irrefl _)
  | cons next lower =>
    have further :
        document.rows = (upper ++ [run]) ++ next :: lower := by
      rw [found, List.append_assoc, List.singleton_append]
    have counted : upper.length + 1 = (upper ++ [run]).length := by
      rw [List.length_append, List.length_singleton]
    rw [counted, rowStart_of_rows further, rowStart_of_rows found,
      rowLength_of_rows found, closed_append, List.length_append,
      closed_cons, closed_nil, List.length_append,
      List.length_singleton, Nat.add_assoc]

/-- The rows below start behind the end of a row. -/
theorem rowStart_add_rowLength_lt
    {row below : Nat}
    (further : row < below)
    (present : below ≤ document.lastRow) :
    document.rowStart row + document.rowLength row <
      document.rowStart below := by
  induction below with
  | zero => exact absurd further (Nat.not_lt_zero row)
  | succ above ih =>
    have next :
        document.rowStart (above + 1) =
          document.rowStart above + document.rowLength above + 1 :=
      rowStart_succ present
    rcases Nat.lt_succ_iff_lt_or_eq.mp further with earlier | rfl
    · have reached := ih earlier (Nat.le_of_succ_le present)
      omega
    · omega

/-- The cursor stands as far behind the start of its row as its column says. -/
theorem cursor_eq
    (inside : document.cursor ≤ document.bytes.length) :
    document.cursor =
      document.rowStart document.position.row +
        document.position.column := by
  rcases document.exists_cut with ⟨upper, left, right, lower, cut⟩
  rw [position_of_cut cut, rowStart_of_rows (rows_of_cut cut)]
  exact cursor_of_cut cut inside

/--
A place is at most a target in a row that exists exactly if it is not behind
the place where a move to the target lands.
-/
theorem position_le_iff
    (inside : document.cursor ≤ document.bytes.length)
    (present : target.row ≤ document.lastRow) :
    document.position ≤ target ↔
      document.cursor ≤ (document.moveTo target).cursor := by
  have cursorEq := cursor_eq inside
  have columnLe := document.position_column_le
  have rowLe := document.position_row_le
  have landing :
      (document.moveTo target).cursor =
        document.rowStart target.row +
          min target.column (document.rowLength target.row) := by
    rw [moveTo, Nat.min_eq_left present]
  rw [Position.le_iff, landing, cursorEq]
  rcases Nat.lt_trichotomy document.position.row target.row with
    above | same | below
  · have further := rowStart_add_rowLength_lt above present
    omega
  · rw [same] at columnLe ⊢
    omega
  · have further := rowStart_add_rowLength_lt below rowLe
    omega

/-- The document with its cursor at an offset. -/
def placed
    (document : Document)
    (offset : Nat) :
    Document :=
  { document with cursor := offset }

section placed

variable {offset first second : Nat}

/-- A move lands at the same place from wherever it starts. -/
theorem moveTo_placed
    (document : Document)
    (offset : Nat)
    (target : Position) :
    (document.placed offset).moveTo target = document.moveTo target :=
  rfl

/-- A move to the position of a place ends at that place. -/
theorem moveTo_position_placed
    (inside : offset ≤ document.bytes.length) :
    document.moveTo (document.placed offset).position =
      document.placed offset := by
  have returned :=
    @moveTo_position (document.placed offset) inside
  rwa [moveTo_placed] at returned

/-- Positions are in the order of the offsets. -/
theorem position_placed_lt_iff
    (firstInside : first ≤ document.bytes.length)
    (secondInside : second ≤ document.bytes.length) :
    (document.placed first).position <
        (document.placed second).position ↔
      first < second := by
  have notBefore :=
    @position_le_iff (document.placed second) _ secondInside
      (document.placed first).position_row_le
  rw [moveTo_placed, moveTo_position_placed firstInside] at notBefore
  rw [← Position.not_le_iff, notBefore]
  exact Nat.not_le

/-- A move to a row that exists lands at the last place up to its target. -/
theorem isGreatest_moveTo
    (present : target.row ≤ document.lastRow) :
    IsGreatest
      {offset | offset ≤ document.bytes.length ∧
        (document.placed offset).position ≤ target}
      (document.moveTo target).cursor := by
  have atMost : ∀ offset : Nat, offset ≤ document.bytes.length →
      ((document.placed offset).position ≤ target ↔
        offset ≤ (document.moveTo target).cursor) := by
    intro offset inside
    exact @position_le_iff (document.placed offset) target inside present
  have landed := document.cursor_moveTo_le target
  constructor
  · exact ⟨landed, (atMost _ landed).mpr (Nat.le_refl _)⟩
  · rintro offset ⟨inside, before⟩
    exact (atMost offset inside).mp before

/-- Targets in rows that exist are landed at in their own order. -/
theorem cursor_moveTo_mono
    {lower upper : Position}
    (ordered : lower ≤ upper)
    (present : upper.row ≤ document.lastRow) :
    (document.moveTo lower).cursor ≤ (document.moveTo upper).cursor := by
  have lowerPresent :=
    Nat.le_trans (Position.row_le_of_le ordered) present
  have landed :
      (document.moveTo lower).cursor ≤ document.bytes.length ∧
        (document.placed (document.moveTo lower).cursor).position ≤
          lower :=
    (isGreatest_moveTo lowerPresent).1
  apply (isGreatest_moveTo present).2
  exact ⟨landed.1, Position.le_trans landed.2 ordered⟩

end placed

end Document

/-! ## Places of a buffer -/

namespace GapBuffer

/-- The buffer with its cursor moved to an offset. -/
def cursorAt
    (buffer : GapBuffer)
    (offset : Nat) :
    Checked GapBuffer :=
  return (← buffer.shift (offset - buffer.front.length)).2

variable
    {buffer moved : GapBuffer}
    {document : Document}

/-- A buffer is told by the document that it holds and by its capacity. -/
theorem Holds.eq_of_capacity
    (holds : buffer.Holds document)
    (movedHolds : moved.Holds document)
    (sameCapacity : moved.capacity = buffer.capacity) :
    moved = buffer :=
  holds.inOrder.eq_of_document movedHolds.inOrder
    (movedHolds.document_eq.trans holds.document_eq.symm) sameCapacity

/-- Every place of a buffer is reached. -/
theorem movesTo_cursorAt
    (holds : buffer.Holds document)
    {offset : Nat}
    (inside : offset ≤ document.bytes.length) :
    buffer.MovesTo (buffer.cursorAt offset) (document.placed offset) := by
  have distanceEq :
      (document.cursor : Int) + (offset - buffer.front.length) = offset := by
    rw [holds.length_front]
    omega
  exact movesTo_of_shift holds inside distanceEq

end GapBuffer

/--
The places of a text that is held in a buffer, by their offsets.  They are in
the order of their positions, and a move to the position of a place ends there.
Wherever a move starts, it ends at the place that its target names, and a second
one does not leave that place.  If the row of the target exists, this is the
last place up to the target, so it is no earlier for a target further on.
-/
theorem places_of_used_buffer
    {capacity : Nat}
    {uses : List TextUse}
    {empty buffer : GapBuffer}
    (created : GapBuffer.withCapacity capacity = .ok empty)
    (used : empty.useAll uses = .ok buffer) :
    ∃ (place : Nat → GapBuffer) (landing : Position → Nat),
      (∀ offset ≤ buffer.length,
        buffer.cursorAt offset = .ok (place offset) ∧
          (place offset).bytes = buffer.bytes ∧
          (place offset).front.length = offset) ∧
      (∀ first ≤ buffer.length, ∀ second ≤ buffer.length,
        (first < second ↔
          (place first).position < (place second).position) ∧
          (place second).moveTo (place first).position =
            .ok (place first)) ∧
      (∀ target : Position,
        landing target ≤ buffer.length ∧
          ∀ start ≤ buffer.length,
            (place start).moveTo target = .ok (place (landing target)) ∧
              (do (← (place start).moveTo target).moveTo target) =
                (place start).moveTo target) ∧
      (∀ target : Position,
        target.row ≤ buffer.document.lastRow →
          IsGreatest
            {offset | offset ≤ buffer.length ∧
              (place offset).position ≤ target}
            (landing target)) ∧
      ∀ lower upper : Position,
        lower ≤ upper →
        upper.row ≤ buffer.document.lastRow →
          landing lower ≤ landing upper := by
  rcases GapBuffer.holds_of_withCapacity created with ⟨-, emptyHolds⟩
  rcases emptyHolds.exists_of_useAll uses used with ⟨document, holds⟩
  rw [holds.length_eq, holds.document_eq, holds.bytes_eq]
  have reached :
      ∀ offset : Nat, ∃ place : GapBuffer,
        offset ≤ document.bytes.length →
          buffer.cursorAt offset = .ok place ∧
            place.capacity = buffer.capacity ∧
            place.Holds (document.placed offset) := by
    intro offset
    by_cases inside : offset ≤ document.bytes.length
    · rcases GapBuffer.movesTo_cursorAt holds inside with
        ⟨place, moves, capacityEq, placeHolds⟩
      exact ⟨place, fun _ => ⟨moves, capacityEq, placeHolds⟩⟩
    · exact ⟨buffer, fun among => absurd among inside⟩
  choose place placed using reached
  have lands :
      ∀ (start : Nat) (target : Position),
        start ≤ document.bytes.length →
          (place start).moveTo target =
            .ok (place (document.moveTo target).cursor) := by
    intro start target inside
    rcases placed start inside with ⟨-, startCapacity, startHolds⟩
    rcases placed _ (document.cursor_moveTo_le target) with
      ⟨-, endCapacity, endHolds⟩
    rcases GapBuffer.movesTo_moveTo startHolds target with
      ⟨moved, moves, movedCapacity, movedHolds⟩
    rw [moves, endHolds.eq_of_capacity movedHolds]
    rw [movedCapacity, startCapacity, endCapacity]
  have positionEq :
      ∀ offset : Nat, offset ≤ document.bytes.length →
        (place offset).position = (document.placed offset).position := by
    intro offset inside
    exact (placed offset inside).2.2.position_eq
  refine
    ⟨place, fun target => (document.moveTo target).cursor,
      ?_, ?_, ?_, ?_, ?_⟩
  · intro offset inside
    rcases placed offset inside with ⟨moves, -, placeHolds⟩
    exact ⟨moves, placeHolds.bytes_eq, placeHolds.length_front⟩
  · intro first firstInside second secondInside
    constructor
    · rw [positionEq first firstInside, positionEq second secondInside]
      exact
        (Document.position_placed_lt_iff firstInside secondInside).symm
    · rw [lands second _ secondInside, positionEq first firstInside,
        Document.moveTo_position_placed firstInside]
      rfl
  · intro target
    have landed := document.cursor_moveTo_le target
    refine ⟨landed, ?_⟩
    intro start inside
    rw [lands start target inside, Checked.ok_bind]
    exact ⟨rfl, lands _ target landed⟩
  · intro target present
    have greatest := document.isGreatest_moveTo present
    constructor
    · rcases greatest.1 with ⟨inside, before⟩
      exact ⟨inside, positionEq _ inside ▸ before⟩
    · rintro offset ⟨inside, before⟩
      exact greatest.2 ⟨inside, positionEq _ inside ▸ before⟩
  · intro lower upper ordered present
    exact Document.cursor_moveTo_mono ordered present

/-- A target past the end of an empty row, between two rows that have text. -/
theorem places_around_empty_row :
    ∃ (empty buffer : GapBuffer) (place : Nat → GapBuffer)
      (landing : Position → Nat),
      GapBuffer.withCapacity 2 = .ok empty ∧
        empty.useAll [.insert [97, 98, 99, 10, 10, 100], .shift (-4)] =
          .ok buffer ∧
        (place 3).position < (place 4).position ∧
        (place 6).moveTo (place 3).position = .ok (place 3) ∧
        (place 0).moveTo ⟨1, 9⟩ = .ok (place 4) ∧
        (place 4).front = [97, 98, 99, 10] ∧
        IsGreatest
          {offset | offset ≤ buffer.length ∧
            (place offset).position ≤ ⟨1, 9⟩}
          4 ∧
        landing ⟨0, 7⟩ ≤ landing ⟨1, 9⟩ := by
  have created :
      GapBuffer.withCapacity 2 =
        .ok ⟨Storage.zeros 2, { start := 0, stop := 2 }⟩ :=
    rfl
  have used :
      GapBuffer.useAll ⟨Storage.zeros 2, { start := 0, stop := 2 }⟩
          [.insert [97, 98, 99, 10, 10, 100], .shift (-4)] =
        .ok
          ⟨#[97, 98, 0, 0, 99, 10, 10, 100], { start := 2, stop := 4 }⟩ := by
    decide +kernel
  rcases places_of_used_buffer created used with
    ⟨place, landing, named, ordered, lands, greatest, mono⟩
  have atStart :
      GapBuffer.cursorAt
          ⟨#[97, 98, 0, 0, 99, 10, 10, 100], { start := 2, stop := 4 }⟩ 0 =
        .ok
          ⟨#[0, 0, 97, 98, 99, 10, 10, 100], { start := 0, stop := 2 }⟩ := by
    decide +kernel
  have inRow :
      GapBuffer.cursorAt
          ⟨#[97, 98, 0, 0, 99, 10, 10, 100], { start := 2, stop := 4 }⟩ 4 =
        .ok
          ⟨#[97, 98, 99, 10, 0, 0, 10, 100], { start := 4, stop := 6 }⟩ := by
    decide +kernel
  have moved :
      GapBuffer.moveTo
          ⟨#[0, 0, 97, 98, 99, 10, 10, 100], { start := 0, stop := 2 }⟩
          ⟨1, 9⟩ =
        .ok
          ⟨#[97, 98, 99, 10, 0, 0, 10, 100], { start := 4, stop := 6 }⟩ := by
    decide +kernel
  have first := (named 0 (by decide)).1
  rw [atStart] at first
  have fourth := (named 4 (by decide)).1
  rw [inRow] at fourth
  have landed := ((lands ⟨1, 9⟩).2 0 (by decide)).1
  rw [← Except.ok.inj first, moved] at landed
  have four : landing ⟨1, 9⟩ = 4 := by
    rw [← (named _ (lands ⟨1, 9⟩).1).2.2, ← Except.ok.inj landed]
    rfl
  rw [Except.ok.inj fourth] at moved
  refine
    ⟨_, _, place, landing, created, used, ?_, ?_, ?_, ?_, ?_, ?_⟩
  · exact (ordered 3 (by decide) 4 (by decide)).1.mp (by decide)
  · exact (ordered 3 (by decide) 6 (by decide)).2
  · rw [← Except.ok.inj first]
    exact moved
  · rw [← Except.ok.inj fourth]
    rfl
  · have last := greatest ⟨1, 9⟩ (by decide)
    rw [four] at last
    exact last
  · exact mono ⟨0, 7⟩ ⟨1, 9⟩ (by decide) (by decide)

end TerminalEditor
