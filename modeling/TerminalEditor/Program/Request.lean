import TerminalEditor.Fault
import TerminalEditor.Input.Waiting
import TerminalEditor.Log
import TerminalEditor.Program.Modes
import TerminalEditor.Screen.Output

/-!
# Requests to the system

All that the program does to the world outside is to make requests, one at a
time, and to act on the replies.  A run of the program is thus a sequence of
requests with their replies.
-/

namespace TerminalEditor

/-- One call on the system. -/
inductive Request (Termios : Type)
  | readModes
  | setModes (modes : Termios)
  | startInput
  | querySize
  | write (bytes : Bytes)
  | awaitInput
  deriving DecidableEq, Repr

/-- What a request may be answered with. -/
def Request.Reply
    {Termios : Type} :
    Request Termios → Type
  | .readModes => Except Failure Termios
  | .setModes _ => Except Failure Unit
  | .startInput => Except Failure Unit
  | .querySize => Except Failure ScreenVector
  | .write _ => Acceptance
  | .awaitInput => Arrival

/-- A request together with its reply. -/
structure Exchange (Termios : Type) where
  request : Request Termios
  reply : request.Reply

/-- How a run of the program ends. -/
inductive Ending
  /-- The user has quit. -/
  | quit
  /-- A request failed; the context tells what for. -/
  | failed (context : Option String) (failure : Failure)
  /-- A check of the storage did not hold. -/
  | faulted (fault : Fault)
  deriving DecidableEq, Repr

/-- What comes next at some stage of a run. -/
inductive Next (Termios Stage : Type)
  | ends (ending : Ending)
  | asks (request : Request Termios)
      (resume : request.Reply → Stage × List Entry)

end TerminalEditor
