import TerminalEditor.Buffer.Shown
import TerminalEditor.Editor.Basic
import TerminalEditor.Screen.Command
import TerminalEditor.Text.Fields

/-!
# Frames

A frame is the list of commands that draws the whole screen anew: the rows of
the text that are in view, each cut at the width of the screen, a status line
in the last row, and the cursor.
-/

namespace TerminalEditor.Editor

/-- The rows of the text that are in view, cut at the width. -/
def visibleRows
    (editor : Editor)
    (size : ScreenVector) :
    List (List Char) :=
  (((Text.fields '\n' (Utf8.lossy editor.buffer.bytes)).drop
      editor.scroll).take (textRows size)).map
    (·.take size.x.toNat)

/-- The cursor's position and the length of the text. -/
def status (editor : Editor) : List Char :=
  s!" {editor.buffer.position.render}  {editor.buffer.length} bytes".toList

/-- A text cut at a width, or filled up with spaces to it. -/
def fit
    (width : Nat)
    (text : List Char) :
    List Char :=
  text.take width ++ List.replicate (width - text.length) ' '

/-- The commands that draw some rows, the first of them at row `y`. -/
def drawRows
    (y : Nat) :
    List (List Char) → List Command
  | [] => []
  | row :: rows =>
    .moveTo ⟨0, saturate y⟩ :: .text row :: drawRows (y + 1) rows

/-- The commands that draw the status line. -/
def drawStatus
    (editor : Editor)
    (size : ScreenVector) :
    List Command :=
  .moveTo ⟨0, size.y - 1⟩ :: Command.ofStyle .inverted ++
    [.text (fit size.x.toNat editor.status)] ++
    Command.ofStyle .plain

/-- The cell in which the cursor is shown. -/
def cursorCell
    (editor : Editor)
    (size : ScreenVector) :
    ScreenVector :=
  let position := editor.buffer.position
  (Vec2.mk position.column (position.row - editor.scroll)).componentMin
    ⟨size.x.toNat - 1, textRows size - 1⟩ |>.toScreen

/-- The commands that draw the whole screen. -/
def frame
    (editor : Editor)
    (size : ScreenVector) :
    List Command :=
  let blank :=
    .showCursor false :: Command.ofStyle .plain ++ [.clear]
  if size.x = 0 ∨ size.y = 0 then
    blank
  else
    blank ++ drawRows 0 (editor.visibleRows size) ++
      editor.drawStatus size ++
      [.moveTo (editor.cursorCell size), .showCursor true]

end TerminalEditor.Editor
