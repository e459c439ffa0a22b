/-!
# Failures of input and output

A failure tells what kind of thing went wrong outside the program and carries
the text that reports it.
-/

namespace TerminalEditor

/-- The kinds of failure that a caller can tell apart. -/
inductive FailureKind
  | brokenPipe
  | permissionDenied
  | wouldBlock
  | unexpectedEnd
  | writeZero
  | other
  deriving DecidableEq, Repr

/-- A failed read, write or call on the system. -/
structure Failure where
  kind : FailureKind
  message : String
  deriving DecidableEq, Repr

namespace Failure

/-- The input has ended and no byte of it is left. -/
def inputClosed : Failure :=
  ⟨.unexpectedEnd, "input closed"⟩

/-- A sink accepted no byte of the ones offered. -/
def nothingAccepted : Failure :=
  ⟨.writeZero, "failed to write whole buffer"⟩

/-- A call for a terminal was made on something else. -/
def notATerminal : Failure :=
  ⟨.other, "Inappropriate ioctl for device (os error 25)"⟩

end Failure

end TerminalEditor
