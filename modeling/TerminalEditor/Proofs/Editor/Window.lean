import TerminalEditor.Editor.Frame
import TerminalEditor.Proofs.Editor.Typing
import TerminalEditor.Proofs.Screen.Drawing

/-!
# The window that a frame shows

A frame is drawn over whatever the display showed before.  The rows of the text
in view stand at its top in the plain style, the status line fills its last row,
and the cursor stands in its cell.
-/

namespace TerminalEditor

namespace Display

/-- Cells with some rows of text laid over them, the first of them at `y`. -/
def overlayRows
    (cells : Nat → Nat → Cell)
    (y : Nat)
    (rows : List (List Char))
    (style : Style) :
    Nat → Nat → Cell :=
  fun row column =>
    if y ≤ row then
      ((rows[row - y]?.bind (·[column]?)).map fun char =>
        ⟨char, style⟩).getD (cells row column)
    else
      cells row column

theorem overlayRows_nil
    (cells : Nat → Nat → Cell)
    (y : Nat)
    (style : Style) :
    overlayRows cells y [] style = cells := by
  ext row column
  simp [overlayRows]

/-- Rows are laid over one after the other. -/
theorem overlayRows_cons
    (cells : Nat → Nat → Cell)
    (y : Nat)
    (first : List Char)
    (later : List (List Char))
    (style : Style) :
    overlayRows cells y (first :: later) style =
      overlayRows (overlay cells y 0 first style) (y + 1) later style := by
  ext row column
  rcases Nat.lt_trichotomy row y with above | here | below
  · simp [overlayRows, overlay, Nat.not_le.mpr above, Nat.ne_of_lt above,
      show ¬ y + 1 ≤ row by omega]
  · simp [overlayRows, overlay, here, show ¬ y + 1 ≤ y by omega]
  · have index : row - y = row - (y + 1) + 1 := by
      omega
    simp [overlayRows, overlay, Nat.le_of_lt below, Nat.ne_of_gt below,
      index, show y + 1 ≤ row from below]

end Display

namespace Editor

/-- Rows that fit are laid over the display, and nothing else is changed. -/
theorem carryOut_drawRows
    (rows : List (List Char))
    (y : Nat)
    (display : Display)
    (inHeight : y + rows.length ≤ display.height)
    (fits : ∀ row ∈ rows, row.length ≤ display.width)
    (inWidth : 0 < display.width)
    (width : display.width ≤ 0xffff)
    (height : display.height ≤ 0xffff) :
    ∃ (row column : Nat) (isWrapping : Bool),
      display.carryOut (drawRows y rows) =
        { display with
          cells :=
            Display.overlayRows display.cells y rows display.style
          row
          column
          isWrapping } := by
  induction rows generalizing y display with
  | nil =>
    refine ⟨display.row, display.column, display.isWrapping, ?_⟩
    rw [drawRows, Display.carryOut_nil, Display.overlayRows_nil]
  | cons first later ih =>
    rw [List.length_cons] at inHeight
    have number : (saturate y).toNat = y := by
      rw [toNat_saturate]
      omega
    have line :=
      display.carryOut_line (saturate y) first (by omega) inWidth
        (fits first List.mem_cons_self) width height
    rw [number] at line
    have split :
        drawRows y (first :: later) =
          [.moveTo ⟨0, saturate y⟩, .text first] ++
            drawRows (y + 1) later :=
      rfl
    rw [split, Display.carryOut_append, line, Display.overlayRows_cons]
    exact
      ih (y + 1) _ (by simp only; omega)
        (fun row member => fits row (List.mem_cons_of_mem first member))
        inWidth width height

/-- The text rows and the status line are all rows of a screen. -/
theorem textRows_add_one {size : ScreenVector}
    (high : 0 < size.y.toNat) :
    textRows size + 1 = size.y.toNat :=
  Nat.sub_add_cancel high

theorem length_visibleRows_le
    (editor : Editor)
    (size : ScreenVector) :
    (editor.visibleRows size).length ≤ textRows size := by
  rw [visibleRows, List.length_map]
  exact List.length_take_le _ _

theorem length_visibleRow_le
    (editor : Editor)
    (size : ScreenVector) :
    ∀ row ∈ editor.visibleRows size, row.length ≤ size.x.toNat := by
  intro row member
  rcases List.mem_map.mp member with ⟨whole, -, rfl⟩
  exact List.length_take_le _ _

@[simp]
theorem length_fit
    (width : Nat)
    (text : List Char) :
    (fit width text).length = width := by
  rw [fit, List.length_append, List.length_take, List.length_replicate]
  omega

/-- A fitted text has its characters and then spaces. -/
theorem getElem?_fit
    (text : List Char)
    {width column : Nat}
    (inside : column < width) :
    (fit width text)[column]? = some (text[column]?.getD ' ') := by
  rw [fit]
  by_cases within : column < text.length
  · rw [List.getElem?_append_left (by rw [List.length_take]; omega),
      List.getElem?_take_of_lt inside, List.getElem?_eq_getElem within]
    rfl
  · rw [List.getElem?_append_right (by rw [List.length_take]; omega),
      List.getElem?_replicate, if_pos (by rw [List.length_take]; omega),
      List.getElem?_eq_none (Nat.le_of_not_lt within)]
    rfl

/-- The cursor's cell is inside the text rows, or in the only row. -/
theorem toNat_cursorCell
    (editor : Editor)
    (size : ScreenVector) :
    (editor.cursorCell size).x.toNat =
        min editor.buffer.position.column (size.x.toNat - 1) ∧
      (editor.cursorCell size).y.toNat =
        min (editor.buffer.position.row - editor.scroll)
          (textRows size - 1) := by
  have width := size.x.toNat_lt
  have height := size.y.toNat_lt
  constructor
  · show
      (saturate
        (min editor.buffer.position.column (size.x.toNat - 1))).toNat = _
    rw [toNat_saturate]
    omega
  · show
      (saturate
        (min (editor.buffer.position.row - editor.scroll)
          (textRows size - 1))).toNat = _
    rw [toNat_saturate, textRows]
    omega

/-- The first commands of a frame blank the screen in the plain style. -/
theorem carryOut_blank (display : Display) :
    display.carryOut
        (.showCursor false :: Command.ofStyle .plain ++ [.clear]) =
      { display with
        cells := fun _ _ => {}
        style := .plain
        showsCursor := false } := by
  rw [List.cons_append, Display.carryOut_cons,
    Display.perform_showCursor, Display.carryOut_append,
    Display.carryOut_ofStyle, Display.carryOut_cons,
    Display.perform_clear]
  rfl

/-- The status line fills the last row and leaves the plain style. -/
theorem carryOut_drawStatus
    (editor : Editor)
    (size : ScreenVector)
    (display : Display)
    (sameWidth : display.width = size.x.toNat)
    (sameHeight : display.height = size.y.toNat)
    (wide : 0 < size.x.toNat)
    (high : 0 < size.y.toNat) :
    ∃ (row column : Nat) (isWrapping : Bool),
      display.carryOut (editor.drawStatus size) =
        { display with
          cells :=
            Display.overlay display.cells (textRows size) 0
              (fit size.x.toNat editor.status) .inverted
          row
          column
          isWrapping
          style := .plain } := by
  have small := size.x.toNat_lt
  have low := size.y.toNat_lt
  have lastRow : (size.y - 1).toNat = textRows size :=
    UInt16.toNat_sub_of_le _ _ (UInt16.le_iff_toNat_le.mpr high)
  have place :=
    display.perform_moveTo ⟨0, size.y - 1⟩
      (by rw [sameWidth]; exact wide)
      (by rw [sameHeight, lastRow, textRows]; omega)
      (by omega) (by omega)
  refine
    ⟨textRows size, min size.x.toNat (display.width - 1),
      decide (size.x.toNat = display.width), ?_⟩
  rw [drawStatus, List.append_assoc, List.cons_append,
    Display.carryOut_cons, place, Display.carryOut_append,
    Display.carryOut_ofStyle, Display.carryOut_append,
    Display.carryOut_cons, Display.perform_text, Display.foldl_write]
  · simp only [Display.carryOut_nil, Display.carryOut_ofStyle, length_fit,
      lastRow, UInt16.toNat_zero, Nat.zero_add]
  · rfl
  · rw [sameWidth]
    exact wide
  · simp [sameWidth]

/-- A screen that has a cell is drawn with all parts of a frame. -/
theorem frame_of_present
    (editor : Editor)
    {size : ScreenVector}
    (wide : 0 < size.x.toNat)
    (high : 0 < size.y.toNat) :
    editor.frame size =
      .showCursor false :: Command.ofStyle .plain ++ [.clear] ++
        drawRows 0 (editor.visibleRows size) ++
        editor.drawStatus size ++
        [.moveTo (editor.cursorCell size), .showCursor true] := by
  have present : ¬ (size.x = 0 ∨ size.y = 0) := by
    rintro (none | none)
    · rw [none] at wide
      cases wide
    · rw [none] at high
      cases high
  rw [frame, if_neg present]

/-- A frame makes the same of every display of its size. -/
theorem carryOut_frame
    (editor : Editor)
    (size : ScreenVector)
    (display : Display)
    (sameWidth : display.width = size.x.toNat)
    (sameHeight : display.height = size.y.toNat)
    (wide : 0 < size.x.toNat)
    (high : 0 < size.y.toNat) :
    display.carryOut (editor.frame size) =
      { display with
        cells :=
          Display.overlay
            (Display.overlayRows (fun _ _ => {}) 0
              (editor.visibleRows size) .plain)
            (textRows size) 0 (fit size.x.toNat editor.status) .inverted
        row := (editor.cursorCell size).y.toNat
        column := (editor.cursorCell size).x.toNat
        isWrapping := false
        style := .plain
        showsCursor := true } := by
  have small := size.x.toNat_lt
  have low := size.y.toNat_lt
  have rows := textRows_add_one high
  have cell := editor.toNat_cursorCell size
  rw [frame_of_present editor wide high, Display.carryOut_append,
    Display.carryOut_append, Display.carryOut_append, carryOut_blank]
  obtain ⟨row, column, isWrapping, drawn⟩ :=
    carryOut_drawRows (editor.visibleRows size) 0
      { display with
        cells := fun _ _ => {}
        style := .plain
        showsCursor := false }
      (by
        have := editor.length_visibleRows_le size
        simp only
        omega)
      (by
        simp only [sameWidth]
        exact editor.length_visibleRow_le size)
      (by simp only; omega) (by simp only; omega) (by simp only; omega)
  rw [drawn]
  rcases carryOut_drawStatus editor size
      { display with
        cells :=
          Display.overlayRows (fun _ _ => {}) 0
            (editor.visibleRows size) .plain
        row
        column
        isWrapping
        style := .plain
        showsCursor := false }
      sameWidth sameHeight wide high with
    ⟨statusRow, statusColumn, statusWrapping, status⟩
  rw [status, Display.carryOut_cons, Display.perform_moveTo,
    Display.carryOut_cons, Display.perform_showCursor,
    Display.carryOut_nil]
  · simp only [cell.1]
    omega
  · simp only [cell.2]
    omega
  · simp only
    omega
  · simp only
    omega

/-- The status line of a text: its cursor's position and its length. -/
def statusLine (document : Document) : List Char :=
  let position := document.position
  let length := document.bytes.length
  s!" ({position.row},{position.column})  {length} bytes".toList

section Typed

variable
    {editor : Editor}
    {document : Document}

/-- The rows of the text that is shown are the rows of the bytes. -/
theorem Edits.fields_eq
    (edits : editor.Edits document) :
    Text.fields '\n' (Utf8.lossy editor.buffer.bytes) =
      document.rows.map (·.map Utf8.charOf) := by
  rw [edits.holds.bytes_eq,
    Utf8.lossy_of_ascii _ edits.typed.isAscii, Document.rows,
    ← Text.fields_map]
  · rfl
  · intro byte _ same
    exact Utf8.charOf_injective same

/-- A row in view is cut off the row of the text at its place. -/
theorem Edits.getElem?_visibleRows
    (edits : editor.Edits document)
    (size : ScreenVector)
    {row : Nat}
    (inside : row < textRows size) :
    (editor.visibleRows size)[row]? =
      document.rows[editor.scroll + row]?.map fun bytes =>
        (bytes.map Utf8.charOf).take size.x.toNat := by
  rw [visibleRows, List.getElem?_map, List.getElem?_take_of_lt inside,
    List.getElem?_drop, edits.fields_eq, List.getElem?_map,
    Option.map_map]
  rfl

theorem Edits.status_eq
    (edits : editor.Edits document) :
    editor.status = statusLine document := by
  rw [status, statusLine, Position.render, edits.holds.position_eq,
    edits.holds.length_eq]
  simp [toString]

theorem isPrintableText_digits (number : Nat) :
    IsPrintableText (Nat.toDigits 10 number) := by
  intro char member
  have digit := Utf8.toNat_of_mem_toDigits member
  omega

theorem isPrintableText_fit {text : List Char}
    (width : Nat)
    (printable : IsPrintableText text) :
    IsPrintableText (fit width text) := by
  refine IsPrintableText.append ?_ ?_
  · intro char member
    exact printable char (List.mem_of_mem_take member)
  · intro char member
    rw [List.eq_of_mem_replicate member]
    exact ⟨Nat.le_refl 0x20, Nat.le_of_ble_eq_true rfl⟩

theorem isPrintable_statusLine (document : Document) :
    IsPrintableText (statusLine document) := by
  have parts :
      statusLine document =
        [' ', '('] ++ Nat.toDigits 10 document.position.row ++ [','] ++
          Nat.toDigits 10 document.position.column ++ [')', ' ', ' '] ++
          Nat.toDigits 10 document.bytes.length ++
          [' ', 'b', 'y', 't', 'e', 's'] := by
    simp [statusLine, toString]
  rw [parts]
  refine (((((IsPrintableText.append ?_ ?_).append ?_).append ?_).append
    ?_).append ?_).append ?_
  · exact isPrintableText_of_all rfl
  · exact isPrintableText_digits _
  · exact isPrintableText_of_all rfl
  · exact isPrintableText_digits _
  · exact isPrintableText_of_all rfl
  · exact isPrintableText_digits _
  · exact isPrintableText_of_all rfl

/-- A row holds no newline, so all of it is printable. -/
theorem Edits.isPrintable_visibleRow
    (edits : editor.Edits document)
    (size : ScreenVector) :
    ∀ row ∈ editor.visibleRows size, IsPrintableText row := by
  intro row visible char member
  rcases List.mem_map.mp visible with ⟨whole, among, rfl⟩
  have inText := List.mem_of_mem_drop (List.mem_of_mem_take among)
  rw [edits.fields_eq] at inText
  rcases List.mem_map.mp inText with ⟨bytes, isRow, rfl⟩
  rcases List.mem_map.mp (List.mem_of_mem_take member) with
    ⟨byte, inside, rfl⟩
  rw [Utf8.toNat_charOf]
  rcases edits.typed byte (Text.mem_of_mem_fields isRow inside) with
    rfl | printable
  · exact absurd inside (Text.not_mem_of_mem_fields _ isRow)
  · exact printable

theorem isPrintable_drawRows
    (rows : List (List Char))
    (y : Nat)
    (printable : ∀ row ∈ rows, IsPrintableText row) :
    ∀ command ∈ drawRows y rows, command.IsPrintable := by
  induction rows generalizing y with
  | nil => nofun
  | cons first later ih =>
    have others := ih (y + 1) fun row member =>
      printable row (List.mem_cons_of_mem first member)
    rw [drawRows, List.forall_mem_cons, List.forall_mem_cons]
    exact ⟨trivial, printable first List.mem_cons_self, others⟩

/-- A frame of typed text shows printable characters only. -/
theorem Edits.isPrintable_frame
    (edits : editor.Edits document)
    (size : ScreenVector) :
    ∀ command ∈ editor.frame size, command.IsPrintable := by
  have blank : ∀ command ∈
      Command.showCursor false :: Command.ofStyle .plain ++ [.clear],
      command.IsPrintable := by
    rw [List.cons_append, List.forall_mem_cons, List.forall_mem_append,
      List.forall_mem_singleton]
    exact ⟨trivial, Command.isPrintable_ofStyle _, trivial⟩
  have status : ∀ command ∈ editor.drawStatus size,
      command.IsPrintable := by
    rw [drawStatus, List.forall_mem_append, List.forall_mem_append,
      List.forall_mem_cons, List.forall_mem_singleton]
    exact
      ⟨⟨⟨trivial, Command.isPrintable_ofStyle _⟩,
          isPrintableText_fit _
            (edits.status_eq ▸ isPrintable_statusLine document)⟩,
        Command.isPrintable_ofStyle _⟩
  rw [frame]
  split
  · exact blank
  · rw [List.forall_mem_append, List.forall_mem_append,
      List.forall_mem_append, List.forall_mem_cons,
      List.forall_mem_singleton]
    exact
      ⟨⟨⟨blank,
            isPrintable_drawRows _ 0 (edits.isPrintable_visibleRow size)⟩,
          status⟩, trivial, trivial⟩

/-- A cell above the status line shows the byte at its place in the text. -/
theorem Edits.cell_of_text
    (edits : editor.Edits document)
    (cells : Nat → Nat → Cell)
    (size : ScreenVector)
    {row column : Nat}
    (above : row < textRows size)
    (inside : column < size.x.toNat) :
    Display.overlay
        (Display.overlayRows cells 0 (editor.visibleRows size) .plain)
        (textRows size) 0 (fit size.x.toNat editor.status) .inverted
        row column =
      ((document.rows[editor.scroll + row]?.bind
        (·[column]?)).map fun byte =>
          ⟨Utf8.charOf byte, .plain⟩).getD (cells row column) := by
  have otherRow : ¬ (row = textRows size ∧ 0 ≤ column) := by
    rintro ⟨same, -⟩
    exact Nat.ne_of_lt above same
  rw [Display.overlay, if_neg otherRow, Display.overlayRows,
    if_pos (Nat.zero_le row), Nat.sub_zero,
    edits.getElem?_visibleRows size above]
  cases document.rows[editor.scroll + row]? with
  | none => rfl
  | some bytes =>
    simp [List.getElem?_take_of_lt inside, Function.comp_def]

/-- A cell of the last row shows the status line, or a space after it. -/
theorem Edits.cell_of_status
    (edits : editor.Edits document)
    (cells : Nat → Nat → Cell)
    (size : ScreenVector)
    {column : Nat}
    (inside : column < size.x.toNat) :
    Display.overlay cells (textRows size) 0
        (fit size.x.toNat editor.status) .inverted
        (textRows size) column =
      ⟨(statusLine document)[column]?.getD ' ', .inverted⟩ := by
  have lastRow : textRows size = textRows size ∧ 0 ≤ column :=
    ⟨rfl, Nat.zero_le column⟩
  rw [Display.overlay, if_pos lastRow, Nat.sub_zero,
    getElem?_fit _ inside, edits.status_eq]
  rfl

/-- Once the cursor is followed, its row is drawn where it is in view. -/
theorem row_followed
    (editor : Editor)
    (size : ScreenVector) :
    (editor.scrollToCursor (textRows size)).scroll ≤
        editor.buffer.position.row ∧
      min
          (editor.buffer.position.row -
            (editor.scrollToCursor (textRows size)).scroll)
          (textRows size - 1) =
        editor.buffer.position.row -
          (editor.scrollToCursor (textRows size)).scroll := by
  have shows :=
    follow_shows editor.scroll editor.buffer.row (textRows size)
  rw [GapBuffer.position_row, scrollToCursor]
  constructor
  · exact shows.1
  · simp only
    omega

end Typed

/--
A frame drawn after the cursor was followed shows the window of the text that
starts at the first row in view, whatever the display showed before.  Below it
stands the status line, and the cursor is at its place in the window.
-/
theorem frame_shows_window
    (capacity : Nat)
    (uses : List EditorUse)
    {editor : Editor}
    (reached : (do (← withCapacity capacity).useAll uses) = .ok editor)
    (size : ScreenVector)
    (wide : 1 ≤ size.x.toNat)
    (high : 1 ≤ size.y.toNat)
    (display : Display)
    (sameWidth : display.width = size.x.toNat)
    (sameHeight : display.height = size.y.toNat) :
    let shown := editor.scrollToCursor (textRows size)
    let document := editor.buffer.document
    let after :=
      display.receive (Output.add {} (shown.frame size)).pending
    (∀ row column : Nat,
      row < size.y.toNat - 1 → column < size.x.toNat →
        after.cells row column =
          ((document.rows[shown.scroll + row]?.bind
            (·[column]?)).map fun byte =>
              ⟨Utf8.charOf byte, .plain⟩).getD ⟨' ', .plain⟩) ∧
      (∀ column : Nat, column < size.x.toNat →
        after.cells (size.y.toNat - 1) column =
          ⟨(statusLine document)[column]?.getD ' ', .inverted⟩) ∧
      after.style = .plain ∧
      after.showsCursor = true ∧
      after.column =
        min document.position.column (size.x.toNat - 1) ∧
      shown.scroll ≤ document.position.row ∧
      after.row = document.position.row - shown.scroll := by
  rcases exists_edits_of_uses capacity uses reached with
    ⟨text, edits⟩
  have followed := row_followed editor size
  have shownEdits :
      (editor.scrollToCursor (textRows size)).Edits text :=
    ⟨edits.holds, edits.typed⟩
  intro shown document after
  have documentEq : document = text := edits.holds.document_eq
  have cell := shown.toNat_cursorCell size
  have drawn :
      after =
        { display with
          cells :=
            Display.overlay
              (Display.overlayRows (fun _ _ => {}) 0
                (shown.visibleRows size) .plain)
              (textRows size) 0 (fit size.x.toNat shown.status) .inverted
          row := (shown.cursorCell size).y.toNat
          column := (shown.cursorCell size).x.toNat
          isWrapping := false
          style := .plain
          showsCursor := true } :=
    (Display.receive_bytesOf display _
      (shownEdits.isPrintable_frame size)).trans
      (carryOut_frame shown size display sameWidth sameHeight wide high)
  rw [edits.holds.position_eq] at followed
  rw [shownEdits.holds.position_eq, followed.2] at cell
  rw [drawn, documentEq]
  refine ⟨?_, ?_, rfl, rfl, cell.1, followed.1, cell.2⟩
  · intro row column above inside
    exact shownEdits.cell_of_text _ size above inside
  · intro column inside
    exact shownEdits.cell_of_status _ size inside

/-- A cursor behind the width of a display with one row for text. -/
theorem narrow_window_shown :
    let size : ScreenVector := ⟨2, 2⟩
    let editor : Editor :=
      { buffer := ⟨#[97, 10, 98, 99, 0], { start := 4, stop := 5 }⟩
        scroll := 0 }
    let display : Display :=
      { width := 2
        height := 2
        cells := fun _ _ => ⟨'#', .inverted⟩
        isWrapping := true
        showsCursor := false }
    let after :=
      display.receive
        (Output.add {}
          ((editor.scrollToCursor (textRows size)).frame size)).pending
    (do
        (← withCapacity 5).useAll
          [.event (.plain (.char 'a')) 10, .event (.plain .enter) 10,
            .event (.plain (.char 'b')) 10,
            .event (.plain (.char 'c')) 10]) =
        .ok editor ∧
      after.cells 0 0 = ⟨'b', .plain⟩ ∧
      after.cells 0 1 = ⟨'c', .plain⟩ ∧
      after.cells (size.y.toNat - 1) 1 = ⟨'(', .inverted⟩ ∧
      after.style = .plain ∧
      after.showsCursor = true ∧
      after.column = 1 ∧
      after.row = 0 := by
  intro size editor display after
  have reached :
      (do
        (← withCapacity 5).useAll
          [.event (.plain (.char 'a')) 10, .event (.plain .enter) 10,
            .event (.plain (.char 'b')) 10,
            .event (.plain (.char 'c')) 10]) =
        .ok editor :=
    rfl
  have shows :=
    frame_shows_window 5 _ reached size (by decide) (by decide) display
      rfl rfl
  rcases shows with ⟨text, status, style, cursor, column, -, row⟩
  have bracket :
      (statusLine editor.buffer.document)[1]?.getD ' ' = '(' := by
    decide
  have lastRow := status 1 (by decide)
  rw [bracket] at lastRow
  exact
    ⟨reached, (text 0 0 (by decide) (by decide)).trans rfl,
      (text 0 1 (by decide) (by decide)).trans rfl,
      lastRow, style, cursor, column.trans rfl, row.trans rfl⟩

end Editor

end TerminalEditor
