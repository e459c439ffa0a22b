import TerminalEditor.Program.Stage

/-!
# A console to run on

A console answers the requests of a run.  It has a terminal with modes and a
size, and standard input and output that may or may not be connected to it.
Input is a list of arrivals, after which every wait times out; output is what
was written to the terminal.
-/

namespace TerminalEditor

/-- A terminal with the streams of a program. -/
structure Console where
  size : ScreenVector
  modes : Modes := {}
  inputIsTerminal : Bool := true
  outputIsTerminal : Bool := true
  arrivals : List Arrival := []
  written : Bytes := []
  deriving Repr

namespace Console

/-- Answers one request. -/
def answer (console : Console) :
    (request : Request Modes) → request.Reply × Console
  | .readModes =>
    let reply : Except Failure Modes :=
      if console.inputIsTerminal then
        .ok console.modes
      else
        .error .notATerminal
    (reply, console)
  | .setModes modes =>
    if console.inputIsTerminal then
      ((.ok () : Except Failure Unit), { console with modes })
    else
      ((.error .notATerminal : Except Failure Unit), console)
  | .startInput => ((.ok () : Except Failure Unit), console)
  | .querySize =>
    let reply : Except Failure ScreenVector :=
      if console.outputIsTerminal then
        .ok console.size
      else
        .error .notATerminal
    (reply, console)
  | .write bytes =>
    let written :=
      if console.outputIsTerminal then
        console.written ++ bytes
      else
        console.written
    ((.takes bytes.length : Acceptance), { console with written })
  | .awaitInput =>
    match console.arrivals with
    | [] => ((.timedOut : Arrival), console)
    | arrival :: arrivals => (arrival, { console with arrivals })

end Console

/-- A run on a console and what it has logged. -/
structure Run where
  stage : Stage Modes := .readingModes
  console : Console
  entries : List Entry := []

namespace Run

/-- The run after one more request. -/
def step
    (run : Run)
    (capacity : Nat) :
    Run :=
  match run.stage.next capacity with
  | .ends _ => run
  | .asks request resume =>
    let (reply, console) := run.console.answer request
    let (stage, entries) := resume reply
    { stage, console, entries := run.entries ++ entries }

/-- Whether a run can only wait for more input, or is over. -/
def isQuiet (run : Run) : Bool :=
  match run.stage with
  | .waiting .. => run.console.arrivals.isEmpty
  | .finished _ => true
  | _ => false

/-- Whether a run has cleared the screen and is about to draw, or is over. -/
def isOpen (run : Run) : Bool :=
  match run.stage with
  | .sizing .. => true
  | .finished _ => true
  | _ => false

/-- The run after steps up to a condition, at most so many. -/
def stepsUntil
    (run : Run)
    (capacity : Nat)
    (condition : Run → Bool) :
    Nat → Run
  | 0 => run
  | limit + 1 =>
    if condition run then
      run
    else
      (run.step capacity).stepsUntil capacity condition limit

/-- The number of bytes in an arrival, and one for the arrival itself. -/
def weight : Arrival → Nat
  | .bytes bytes => bytes.length + 1
  | _ => 1

/--
A bound on the steps that a run can make without more input.  Every event
takes a byte or an arrival, and leads to at most one comparison of sizes, one
query, one write and one wait; opening and closing take four steps each.
-/
def stepLimit (run : Run) : Nat :=
  let total :=
    run.console.arrivals.foldl
      (fun total arrival => total + weight arrival) 0
  8 + 4 * (total + 2)

/-- The run after all steps that it can make without more input. -/
def settle
    (run : Run)
    (capacity : Nat) :
    Run :=
  run.stepsUntil capacity isQuiet run.stepLimit

/-- The run after more input has arrived and is dealt with. -/
def receive
    (run : Run)
    (capacity : Nat)
    (arrivals : List Arrival) :
    Run :=
  { run with console := { run.console with arrivals } }.settle capacity

/--
The arrivals of typed bytes, followed by a wait that times out after them and
a quiet one.
-/
def typed (bytes : Bytes) : List Arrival :=
  (InputQueue.pieces (InputQueue.readLimit - 1) bytes).map .bytes ++
    [.timedOut, .timedOut]

/-- The run that closes a terminal with some output not yet written. -/
def closing
    (console : Console)
    (saved : Modes)
    (unsent : Bytes) :
    Run :=
  { stage := .close saved unsent .quit, console }

/-- The ending of a run that is over. -/
def ending? (run : Run) : Option Ending :=
  match run.stage with
  | .finished ending => some ending
  | _ => none

end Run

end TerminalEditor
