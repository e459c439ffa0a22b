import TerminalEditor.Editor.Basic
import TerminalEditor.Key.Decoder
import TerminalEditor.Screen.Vector

/-!
# Editing sessions

A session decodes what is typed and hands each event to the editor, then lets
the view follow the cursor.  After an event that quits, no event is taken.
-/

namespace TerminalEditor

/-- An editor on a screen, fed by typed bytes. -/
structure Session where
  editor : Editor
  size : ScreenVector
  decoder : Decoder := {}
  isDone : Bool := false
  deriving DecidableEq, Repr

namespace Session

/-- What one event has led to. -/
structure Handled where
  event : Event
  flow : Flow
  position : Position
  scroll : Nat
  deriving DecidableEq, Repr

/-- Lets the view follow the cursor. -/
def scrolled (session : Session) : Session :=
  { session with
    editor := session.editor.scrollToCursor (textRows session.size) }

/-- A session with a new editor, before anything is typed. -/
def start
    (capacity : Nat)
    (size : ScreenVector) :
    Checked Session := do
  let editor ← Editor.withCapacity capacity
  return scrolled { editor, size }

/-- Handles events in order, up to the first one that quits. -/
def handleAll
    (session : Session) :
    List Event → Checked (List Handled × Session)
  | [] => pure ([], session)
  | event :: later =>
    if session.isDone then
      pure ([], session)
    else do
      let (flow, editor) ←
        session.editor.handle event (textRows session.size)
      let next :=
        scrolled { session with editor, isDone := flow == .quits }
      let handled : Handled :=
        { event
          flow
          position := next.editor.buffer.position
          scroll := next.editor.scroll }
      let (others, last) ← next.handleAll later
      return (handled :: others, last)

/-- Takes and handles all events that the typed bytes determine. -/
def takeEvents
    (session : Session) :
    Checked (List Handled × Session) :=
  let taken := session.decoder.takeAll
  { session with decoder := taken.2 }.handleAll taken.1

/-- Types bytes. -/
def feed
    (session : Session)
    (bytes : Bytes) :
    Checked (List Handled × Session) :=
  { session with decoder := session.decoder.feed bytes }.takeEvents

/-- Lets a wait pass without anything typed. -/
def timeOut
    (session : Session) :
    Checked (List Handled × Session) :=
  let taken := session.decoder.flushAll
  { session with decoder := taken.2 }.handleAll taken.1

/-- Changes the size of the screen. -/
def resize
    (session : Session)
    (size : ScreenVector) :
    Checked (List Handled × Session) :=
  { session with size }.takeEvents

end Session

end TerminalEditor
