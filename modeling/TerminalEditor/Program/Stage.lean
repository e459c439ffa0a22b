import TerminalEditor.Editor.Frame
import TerminalEditor.Editor.Session
import TerminalEditor.Key.Shown
import TerminalEditor.Program.Request

/-!
# The stages of a run

A run saves the modes of the terminal, enters raw mode, starts the input,
clears the screen, and then draws a frame after every event and every change
of the size until it ends.  However it ends once raw mode was entered, it goes
through `restoring`, which sets the saved modes; and if the input was started,
it goes through `closing` before that, which leaves the screen plain and clear.
-/

namespace TerminalEditor

/-- How far a run has come. -/
inductive Stage (Termios : Type)
  /-- The modes are to be read. -/
  | readingModes
  /-- Raw mode is to be entered. -/
  | enteringRaw (saved : Termios)
  /-- The input is to be started. -/
  | startingInput (saved : Termios)
  /-- The screen is being cleared for the first time. -/
  | clearing (saved : Termios) (remaining : Bytes)
  /-- A frame is to be drawn for the size of the terminal. -/
  | sizing (saved : Termios) (session : Session)
  /-- A frame is being written. -/
  | drawing (saved : Termios) (session : Session) (frame remaining : Bytes)
  /-- An event is awaited. -/
  | waiting (saved : Termios) (session : Session) (received : Bool)
  /-- Nothing came in time; the size may have changed. -/
  | comparing (saved : Termios) (session : Session)
  /-- The last output is being written. -/
  | closing (saved : Termios) (remaining : Bytes) (ending : Ending)
  /-- The saved modes are to be set. -/
  | restoring (saved : Termios) (ending : Ending)
  /-- Nothing is left to do. -/
  | finished (ending : Ending)
  deriving DecidableEq, Repr

/-- What the editor has to say about an event that it has handled. -/
def Editor.entries
    (before after : Editor)
    (event : Event) :
    List Entry :=
  match Action.ofEvent? event with
  | none =>
    [⟨.trace, "ted::editor", "no action for " ++ event.shown⟩]
  | some .quit => [⟨.info, "ted::editor", "quit requested"⟩]
  | some _ =>
    let old := before.buffer.capacity
    let new := after.buffer.capacity
    if old = new then
      []
    else
      [⟨.trace, "ted_buffer::buffer",
        s!"gap buffer grew from {old} to {new} bytes"⟩]

namespace Stage

variable {Termios : Type}

/-- What a failure to set up the terminal is reported with. -/
def setup : Option String :=
  some "couldn't set up the terminal"

/-- Where entries about the modes come from. -/
def modesSource : String :=
  "ted_term::platform::linux::raw_term"

/-- The bytes that clear the screen for the first time. -/
def clearBytes : Bytes :=
  Command.bytesOf [.clear]

/-- The bytes that leave the screen plain and clear. -/
def farewellBytes : Bytes :=
  Command.bytesOf Command.farewell

/-- A stage that writes what is left and then the farewell. -/
def close
    (saved : Termios)
    (unsent : Bytes)
    (ending : Ending) :
    Stage Termios :=
  .closing saved (unsent ++ farewellBytes) ending

/-- The stage after a fault, and the entry that reports it. -/
def fault
    (saved : Termios)
    (fault : Fault) :
    Stage Termios × List Entry :=
  (close saved [] (.faulted fault),
    [⟨.error, "ted::panic", fault.message⟩])

/-- The stage after the screen was cleared for the first time. -/
def opened
    (capacity : Nat)
    (saved : Termios) :
    Stage Termios × List Entry :=
  match Editor.withCapacity capacity with
  | .ok editor => (.sizing saved { editor, size := ScreenVector.zero }, [])
  | .error reason => fault saved reason

/-- The stage after bytes were offered that clear the screen. -/
def afterClearing
    (capacity : Nat)
    (saved : Termios) :
    OfferStep → Stage Termios × List Entry
  | .goesOn [] => opened capacity saved
  | .goesOn rest => (.clearing saved rest, [])
  | .stops failure => (close saved clearBytes (.failed setup failure), [])

/-- The stage after an event was taken. -/
def take
    (saved : Termios)
    (session : Session)
    (event : Event) :
    Stage Termios × List Entry :=
  let seen : Entry := ⟨.debug, "ted", "event: " ++ event.shown⟩
  match session.editor.handle event (textRows session.size) with
  | .error reason =>
    let (stage, entries) := fault saved reason
    (stage, seen :: entries)
  | .ok (flow, editor) =>
    let entries := seen :: session.editor.entries editor event
    match flow with
    | .quits => (close saved [] .quit, entries)
    | .goesOn => (.sizing saved { session with editor }, entries)

/-- The stage in which the next event is looked for. -/
def look
    (saved : Termios)
    (session : Session)
    (received : Bool) :
    Stage Termios × List Entry :=
  match session.decoder.next with
  | (some event, decoder) => take saved { session with decoder } event
  | (none, _) => (.waiting saved session received, [])

/-- The stage after a part of a frame was offered. -/
def afterDrawing
    (saved : Termios)
    (session : Session)
    (frame : Bytes) :
    OfferStep → Stage Termios × List Entry
  | .goesOn [] => look saved session false
  | .goesOn rest => (.drawing saved session frame rest, [])
  | .stops failure => (close saved frame (.failed none failure), [])

/-- The stage after the size was compared. -/
def afterComparing
    (saved : Termios)
    (session : Session) :
    Except Failure ScreenVector → Stage Termios × List Entry
  | .ok size =>
    if size = session.size then
      look saved session false
    else
      (.sizing saved session, [])
  | .error failure => (close saved [] (.failed none failure), [])

/-- The stage after a wait has met something. -/
def afterArrival
    (saved : Termios)
    (session : Session)
    (received : Bool)
    (arrival : Arrival) :
    Stage Termios × List Entry :=
  match session.decoder.meet received arrival with
  | .goesOn decoder received => look saved { session with decoder } received
  | .ends (.ok (some event)) decoder =>
    take saved { session with decoder } event
  | .ends (.ok none) decoder =>
    (.comparing saved { session with decoder }, [])
  | .ends (.error failure) _ =>
    (close saved [] (.failed none failure), [])

/-- The stage in which a frame of some size is written. -/
def draw
    (saved : Termios)
    (session : Session)
    (size : ScreenVector) :
    Stage Termios × List Entry :=
  let entries : List Entry :=
    if size = session.size then
      []
    else
      [⟨.debug, "ted", s!"screen size: {size.x}x{size.y}"⟩]
  let scrolled := { session with size }.scrolled
  let frame := Command.bytesOf (scrolled.editor.frame size)
  (.drawing saved scrolled frame frame, entries)

/-- The stage after a part of the last output was offered. -/
def afterClosing
    (saved : Termios)
    (ending : Ending) :
    OfferStep → Stage Termios × List Entry
  | .goesOn [] => (.restoring saved ending, [])
  | .goesOn rest => (.closing saved rest ending, [])
  | .stops _ => (.restoring saved ending, [])

/-- What comes next in a run with an editor of this capacity. -/
def next
    [TerminalModes Termios]
    (capacity : Nat) :
    Stage Termios → Next Termios (Stage Termios)
  | .readingModes =>
    .asks .readModes fun (reply : Except Failure Termios) =>
      match reply with
      | .ok modes => (.enteringRaw modes, [])
      | .error failure => (.finished (.failed setup failure), [])
  | .enteringRaw saved =>
    .asks (.setModes (TerminalModes.raw saved)) fun (reply : Except Failure Unit) =>
      match reply with
      | .ok () =>
        (.startingInput saved,
          [⟨.debug, modesSource, "entered raw mode"⟩])
      | .error failure => (.finished (.failed setup failure), [])
  | .startingInput saved =>
    .asks .startInput fun (reply : Except Failure Unit) =>
      match reply with
      | .ok () => (.clearing saved clearBytes, [])
      | .error failure => (.restoring saved (.failed setup failure), [])
  | .clearing saved remaining =>
    .asks (.write remaining) fun (reply : Acceptance) =>
      afterClearing capacity saved (reply.step remaining)
  | .sizing saved session =>
    .asks .querySize fun (reply : Except Failure ScreenVector) =>
      match reply with
      | .ok size => draw saved session size
      | .error failure => (close saved [] (.failed none failure), [])
  | .drawing saved session frame remaining =>
    .asks (.write remaining) fun (reply : Acceptance) =>
      afterDrawing saved session frame (reply.step remaining)
  | .waiting saved session received =>
    .asks .awaitInput fun (reply : Arrival) =>
      afterArrival saved session received reply
  | .comparing saved session =>
    .asks .querySize fun (reply : Except Failure ScreenVector) =>
      afterComparing saved session reply
  | .closing saved remaining ending =>
    .asks (.write remaining) fun (reply : Acceptance) =>
      afterClosing saved ending (reply.step remaining)
  | .restoring saved ending =>
    .asks (.setModes saved) fun (reply : Except Failure Unit) =>
      let entry : Entry :=
        match reply with
        | .ok () => ⟨.debug, modesSource, "restored terminal settings"⟩
        | .error failure =>
          ⟨.error, modesSource,
            "couldn't restore terminal settings: " ++ failure.message⟩
      (.finished ending, [entry])
  | .finished ending => .ends ending

end Stage

end TerminalEditor
