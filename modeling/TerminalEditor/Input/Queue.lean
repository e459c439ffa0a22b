import TerminalEditor.Bytes
import TerminalEditor.Failure

/-!
# The queue between the reader and the editor

A reader waits for input on its own and puts what it reads into a queue, in
order.  One read gives at most `readLimit` bytes.  An interrupted read is made
again.  The reader ends at the end of its input, or after it has put the first
failure into the queue, and the queue is then closed.
-/

namespace TerminalEditor

/-- What one read of the input gives. -/
inductive ReadResult
  | received (bytes : Bytes)
  | interrupted
  | failed (failure : Failure)
  | ended
  deriving DecidableEq, Repr

/-- What the reader passes on. -/
abbrev Message : Type :=
  Except Failure Bytes

/-- The messages that were passed on and not yet taken. -/
structure InputQueue where
  messages : List Message := []
  isOpen : Bool := true
  deriving Repr

namespace InputQueue

/-- The greatest number of bytes that one read gives. -/
def readLimit : Nat :=
  1024

/-- The queue after the reader, if it still runs, has made one read. -/
def afterRead
    (queue : InputQueue)
    (result : ReadResult) :
    InputQueue :=
  if queue.isOpen then
    match result with
    | .received [] => { queue with isOpen := false }
    | .received bytes =>
      { queue with messages := queue.messages ++ [.ok bytes] }
    | .interrupted => queue
    | .failed failure =>
      { messages := queue.messages ++ [.error failure], isOpen := false }
    | .ended => { queue with isOpen := false }
  else
    queue

/-- Bytes cut into pieces of at most `size + 1`, in order. -/
def pieces
    (size : Nat)
    (bytes : Bytes) :
    List Bytes :=
  match bytes with
  | [] => []
  | byte :: rest =>
    (byte :: rest.take size) :: pieces size (rest.drop size)
termination_by bytes.length
decreasing_by
  rw [List.length_drop, List.length_cons]
  omega

/-- The queue after the reader has read all of some bytes. -/
def afterBytes
    (queue : InputQueue)
    (bytes : Bytes) :
    InputQueue :=
  (pieces (readLimit - 1) bytes).foldl
    (fun queue piece => queue.afterRead (.received piece))
    queue

/-- A closed queue takes no further message. -/
@[simp]
theorem afterRead_of_closed
    (messages : List Message)
    (result : ReadResult) :
    afterRead ⟨messages, false⟩ result = ⟨messages, false⟩ :=
  rfl

/-- Cutting loses no byte and keeps their order. -/
@[simp]
theorem flatten_pieces
    (size : Nat)
    (bytes : Bytes) :
    (pieces size bytes).flatten = bytes := by
  fun_induction pieces size bytes with
  | case1 => rfl
  | case2 byte rest hypothesis =>
    rw [List.flatten_cons, hypothesis, List.cons_append,
      List.take_append_drop]

end InputQueue

end TerminalEditor
