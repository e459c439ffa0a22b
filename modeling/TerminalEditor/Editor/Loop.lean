import TerminalEditor.Editor.Frame
import TerminalEditor.Editor.Session

/-!
# The loop of a session

A loop takes the events of a session one at a time as their bytes arrive.  It
draws a frame at its start and after every event that does not quit, each time
after the view has followed the cursor.  The size of the screen stays the same.
-/

namespace TerminalEditor

/-- A session with what it has handled and the frame that it drew last. -/
structure Loop where
  session : Session
  handled : List Session.Handled := []
  frame : List Command := []
  deriving DecidableEq, Repr

namespace Loop

/-- Draws a frame after the view has followed the cursor. -/
def draw (loop : Loop) : Loop :=
  let session := loop.session.scrolled
  { loop with
    session
    frame := session.editor.frame session.size }

/-- A loop with a new editor, before anything has arrived. -/
def start
    (capacity : Nat)
    (size : ScreenVector) :
    Checked Loop := do
  return draw { session := ← Session.start capacity size }

/-- Handles one event, and draws a frame if the event does not quit. -/
def handle
    (loop : Loop)
    (event : Event) :
    Checked Loop := do
  let (handled, session) ← loop.session.handleAll [event]
  let next :=
    { loop with
      session
      handled := loop.handled ++ handled }
  return if session.isDone then next else next.draw

/-- Adds bytes that have arrived. -/
def arrive
    (loop : Loop)
    (bytes : Bytes) :
    Loop :=
  { loop with
    session :=
      { loop.session with decoder := loop.session.decoder.feed bytes } }

/-- Takes and handles the next event, if the bytes determine one. -/
def poll (loop : Loop) : Checked Loop :=
  match loop.session.decoder.next with
  | (none, _) => pure loop
  | (some event, decoder) =>
    { loop with session := { loop.session with decoder } }.handle event

/-- Handles events one after the other. -/
def handleAll
    (loop : Loop) :
    List Event → Checked Loop
  | [] => pure loop
  | event :: later => do (← loop.handle event).handleAll later

/-- Takes and handles all events that the bytes determine. -/
def settle (loop : Loop) : Checked Loop :=
  let taken := loop.session.decoder.takeAll
  { loop with
    session := { loop.session with decoder := taken.2 } }.handleAll taken.1

end Loop

end TerminalEditor
