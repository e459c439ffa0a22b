import TerminalEditor.Editor.Action

/-!
# The editor

The editor holds a text with its cursor and the first row that is in view.  It
is driven by events alone.  An event changes the text or the cursor and never
the rows in view; these follow the cursor in a step of their own.
-/

namespace TerminalEditor

/-- Whether the editor goes on after an event. -/
inductive Flow
  | goesOn
  | quits
  deriving DecidableEq, Repr

/-- A text that is edited, and the first row of it that is in view. -/
structure Editor where
  buffer : GapBuffer
  scroll : Nat := 0
  deriving DecidableEq, Repr

namespace Editor

/-- An editor of an empty text whose buffer has this capacity. -/
def withCapacity (capacity : Nat) : Checked Editor := do
  return { buffer := ← GapBuffer.withCapacity capacity }

/-- The buffer after an action that is not to quit. -/
def act
    (buffer : GapBuffer)
    (pageRows : Nat) :
    Action → Checked GapBuffer
  | .insert char => buffer.insertChar char
  | .move motion => buffer.navigate motion
  | .pageUp => buffer.navigate (.pageUp (max pageRows 1))
  | .pageDown => buffer.navigate (.pageDown (max pageRows 1))
  | .quit => pure buffer

/-- Applies one event, where a page key moves by `pageRows` rows. -/
def handle
    (editor : Editor)
    (event : Event)
    (pageRows : Nat) :
    Checked (Flow × Editor) :=
  match Action.ofEvent? event with
  | none => pure (.goesOn, editor)
  | some .quit => pure (.quits, editor)
  | some action => do
    let buffer ← act editor.buffer pageRows action
    return (.goesOn, { editor with buffer })

/-- The first row in view nearest to `scroll` that shows `row`. -/
def follow
    (scroll row rows : Nat) :
    Nat :=
  if row < scroll then
    row
  else if scroll + max rows 1 ≤ row then
    row + 1 - max rows 1
  else
    scroll

/-- Scrolls as little as needed to show the cursor in `rows` rows. -/
def scrollToCursor
    (editor : Editor)
    (rows : Nat) :
    Editor :=
  { editor with
    scroll := follow editor.scroll editor.buffer.row rows }

@[simp]
theorem scrollToCursor_buffer
    (editor : Editor)
    (rows : Nat) :
    (editor.scrollToCursor rows).buffer = editor.buffer :=
  rfl

/-- The row followed is in view. -/
theorem follow_shows
    (scroll row rows : Nat) :
    follow scroll row rows ≤ row ∧
      row < follow scroll row rows + max rows 1 := by
  unfold follow
  split
  · omega
  · split <;> omega

end Editor

end TerminalEditor
