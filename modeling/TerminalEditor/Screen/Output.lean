import TerminalEditor.Failure
import TerminalEditor.Screen.Command

/-!
# Output that is kept until it is flushed

Commands are collected and reach the sink only by a flush.  A flush offers the
pending bytes until the sink has taken them all; a sink may take some of them,
ask to be offered them again, or fail.  The pending bytes are kept whole unless
all of them were taken, and are then gone even if the sink's own flush fails.
-/

namespace TerminalEditor

/-- What a sink answers when bytes are offered to it. -/
inductive Acceptance
  | takes (count : Nat)
  | interrupted
  | fails (failure : Failure)
  deriving DecidableEq, Repr

/-- What one answer makes of the bytes that are left to offer. -/
inductive OfferStep
  | goesOn (remaining : Bytes)
  | stops (failure : Failure)
  deriving DecidableEq, Repr

/-- The step that one answer makes. -/
def Acceptance.step
    (acceptance : Acceptance)
    (remaining : Bytes) :
    OfferStep :=
  match acceptance with
  | .takes 0 => .stops .nothingAccepted
  | .takes count => .goesOn (remaining.drop count)
  | .interrupted => .goesOn remaining
  | .fails failure => .stops failure

/--
Offers bytes to a sink that gives these answers in turn, and takes everything
after the last of them.  The result is what the sink has taken and whether
that is all.
-/
def offerAll
    (remaining : Bytes)
    (answers : List Acceptance) :
    Bytes × Except Failure Unit :=
  match answers with
  | [] => (remaining, .ok ())
  | answer :: later =>
    if remaining.isEmpty then
      ([], .ok ())
    else
      match answer.step remaining with
      | .stops failure => ([], .error failure)
      | .goesOn rest =>
        let taken := remaining.take (remaining.length - rest.length)
        let others := offerAll rest later
        (taken ++ others.1, others.2)

/-- Commands that wait for a flush. -/
structure Output where
  pending : Bytes := []
  deriving DecidableEq, Repr

namespace Output

/-- Adds commands to the ones that wait. -/
def add
    (output : Output)
    (commands : List Command) :
    Output :=
  ⟨output.pending ++ Command.bytesOf commands⟩

/-- A flush: what waits afterwards, what the sink took, and the result. -/
structure Flush where
  output : Output
  taken : Bytes
  result : Except Failure Unit

/--
Offers the pending bytes to a sink that gives these answers, and then flushes
the sink itself.
-/
def flush
    (output : Output)
    (answers : List Acceptance)
    (sinkFlush : Except Failure Unit) :
    Flush :=
  match offerAll output.pending answers with
  | (taken, .ok ()) => ⟨{}, taken, sinkFlush⟩
  | (taken, .error failure) => ⟨output, taken, .error failure⟩

end Output

end TerminalEditor
