import TerminalEditor.Input.Queue
import TerminalEditor.Key.Decoder

/-!
# Waiting for an event until a deadline

A wait takes messages one at a time and decodes after each.  When the deadline
passes it gives up on the bytes left over only if the whole wait was quiet: a
message that came during the wait may have been the first part of a sequence.
Once the queue is closed and empty the bytes left over are given up at once,
and after that every wait fails.
-/

namespace TerminalEditor

/-- What a wait meets when it looks at the queue. -/
inductive Arrival
  | bytes (bytes : Bytes)
  | failed (failure : Failure)
  | timedOut
  | closed
  deriving DecidableEq, Repr

/--
What a look at a queue meets, and the queue after it.  There is nothing to
meet while the queue is open and empty.
-/
def InputQueue.poll (queue : InputQueue) : Option (Arrival × InputQueue) :=
  match queue.messages with
  | .ok bytes :: later =>
    some (.bytes bytes, { queue with messages := later })
  | .error failure :: later =>
    some (.failed failure, { queue with messages := later })
  | [] => if queue.isOpen then none else some (.closed, queue)

/-- What a wait comes to: an event, nothing in time, or a failure. -/
abbrev WaitResult : Type :=
  Except Failure (Option Event)

/-- A wait after one look at the queue. -/
inductive WaitStep
  /-- It goes on; `received` tells whether a message has come. -/
  | goesOn (decoder : Decoder) (received : Bool)
  /-- It is over. -/
  | ends (result : WaitResult) (decoder : Decoder)
  deriving Repr

namespace Decoder

/-- One step of a wait that has found no decoded event. -/
def meet
    (decoder : Decoder)
    (received : Bool) :
    Arrival → WaitStep
  | .bytes bytes => .goesOn (decoder.feed bytes) true
  | .failed failure => .ends (.error failure) decoder
  | .timedOut =>
    if received then
      .ends (.ok none) decoder
    else
      .ends (.ok decoder.flush.1) decoder.flush.2
  | .closed =>
    match decoder.flush with
    | (some event, rest) => .ends (.ok (some event)) rest
    | (none, rest) => .ends (.error .inputClosed) rest

/--
A wait on a queue whose deadline has passed: it takes the messages that are
there, and meets the deadline when there is none left in an open queue.
-/
def waitFrom
    (received : Bool)
    (decoder : Decoder)
    (messages : List Message)
    (isOpen : Bool) :
    WaitResult × Decoder × InputQueue :=
  match decoder.next with
  | (some event, rest) => (.ok (some event), rest, ⟨messages, isOpen⟩)
  | (none, _) =>
    match messages with
    | .ok bytes :: later =>
      waitFrom true (decoder.feed bytes) later isOpen
    | .error failure :: later =>
      (.error failure, decoder, ⟨later, isOpen⟩)
    | [] =>
      let arrival := if isOpen then .timedOut else .closed
      match decoder.meet received arrival with
      | .goesOn decoder _ => (.ok none, decoder, ⟨[], isOpen⟩)
      | .ends result decoder => (result, decoder, ⟨[], isOpen⟩)

/-- A whole wait on a queue. -/
def wait
    (decoder : Decoder)
    (queue : InputQueue) :
    WaitResult × Decoder × InputQueue :=
  waitFrom false decoder queue.messages queue.isOpen

end Decoder

end TerminalEditor
