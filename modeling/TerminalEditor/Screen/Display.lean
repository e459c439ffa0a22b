import TerminalEditor.Screen.Signal
import TerminalEditor.Screen.Vector

/-!
# What a terminal shows

A display has cells in rows and columns, a cursor in one of them, and the style
in which the next character is drawn.  A character shown in the last column
leaves the cursor there; only the next one goes on in the following row.  Places
are counted from zero here, and from one in control sequences.
-/

namespace TerminalEditor

/-- A character on a display, and how it is drawn. -/
structure Cell where
  char : Char := ' '
  style : Style := .plain
  deriving DecidableEq, Repr

/-- The cells of a terminal with its cursor and its style. -/
structure Display where
  width : Nat
  height : Nat
  /-- The cell in a row and a column. -/
  cells : Nat → Nat → Cell
  row : Nat := 0
  column : Nat := 0
  /-- Whether the next character goes on in the following row. -/
  isWrapping : Bool := false
  style : Style := .plain
  showsCursor : Bool := true

namespace Display

/-- The colour that a digit names. -/
def color? : Nat → Option Color
  | 0 => some .black
  | 1 => some .red
  | 2 => some .green
  | 3 => some .yellow
  | 4 => some .blue
  | 5 => some .magenta
  | 6 => some .cyan
  | 7 => some .white
  | 9 => some .standard
  | _ => none

/-- The style after one change by its number. -/
def restyle
    (style : Style)
    (number : Nat) :
    Style :=
  match number with
  | 0 => .plain
  | 1 => { style with weight := .bold }
  | 2 => { style with weight := .dim }
  | 4 => { style with underline := true }
  | 22 => { style with weight := .normal }
  | 24 => { style with underline := false }
  | _ =>
    match number / 10, color? (number % 10) with
    | 3, some foreground => { style with foreground }
    | 4, some background => { style with background }
    | _, _ => style

/-- The display with its cursor in a cell, or in the one nearest to it. -/
def place
    (display : Display)
    (row column : Nat) :
    Display :=
  { display with
    row := min row (display.height - 1)
    column := min column (display.width - 1)
    isWrapping := false }

/-- The cursor at the start of the next row; the last row scrolls up. -/
def nextRow (display : Display) : Display :=
  if display.row + 1 < display.height then
    display.place (display.row + 1) 0
  else
    { display.place display.row 0 with
      cells := fun row column =>
        if row + 1 < display.height then
          display.cells (row + 1) column
        else
          { style := display.style } }

/-- The display with a character in the cursor's cell. -/
def put
    (display : Display)
    (char : Char) :
    Display :=
  let style := display.style
  let cells := fun row column =>
    if row = display.row ∧ column = display.column then
      { char, style }
    else
      display.cells row column
  if display.column + 1 < display.width then
    { display with cells, column := display.column + 1 }
  else
    { display with cells, isWrapping := true }

/-- The display after a character was shown at the cursor. -/
def write
    (display : Display)
    (char : Char) :
    Display :=
  if display.isWrapping then
    display.nextRow.put char
  else
    display.put char

/-- The display with every cell blank in the present style. -/
def erase (display : Display) : Display :=
  { display with cells := fun _ _ => { style := display.style } }

/-- A display of this size that is blank and plain, with its cursor at home. -/
def fresh (display : Display) : Display where
  width := display.width
  height := display.height
  cells _ _ := {}

/-- The display after one signal.  Unknown sequences change nothing. -/
def obey
    (display : Display) :
    Signal → Display
  | .shown char => display.write char
  | .control false [] 'H' => display.place 0 0
  | .control false [row, column] 'H' =>
    display.place (row - 1) (column - 1)
  | .control false [2] 'J' => display.erase
  | .control false numbers 'm' =>
    { display with style := numbers.foldl restyle display.style }
  | .control true [25] 'h' => { display with showsCursor := true }
  | .control true [25] 'l' => { display with showsCursor := false }
  | .control _ _ _ => display

/-- The display after all signals that some characters hold. -/
def feed
    (display : Display)
    (characters : List Char) :
    Display :=
  (Signal.readAll characters).foldl obey display

@[simp]
theorem feed_nil
    (display : Display) :
    display.feed [] = display := by
  rw [feed, Signal.readAll]
  rfl

end Display

end TerminalEditor
