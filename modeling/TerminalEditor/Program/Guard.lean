import TerminalEditor.Program.Request

/-!
# Guarding a computation

A guarded computation either gives a value, breaks off with a message, or
breaks off silently.  What broke off is reported only after it has cleaned up,
and gives no value.  A run of the program is guarded as a whole.
-/

namespace TerminalEditor

/-- How a computation went. -/
inductive Attempt (α : Type)
  | returned (value : α)
  | brokeOff (message : String)
  | brokeOffSilently
  deriving DecidableEq, Repr

/-- What is reported about a computation that broke off. -/
inductive Notice
  /-- The message it broke off with. -/
  | reported (message : String)
  /-- Nothing is known but that it broke off. -/
  | bare
  deriving DecidableEq, Repr

/-- The text of a notice. -/
def Notice.text : Notice → String
  | .reported message => message ++ "\n"
  | .bare => "panicked\n"

namespace Attempt

/-- The value of a guarded computation, if it gave one. -/
def value?
    {α : Type} :
    Attempt α → Option α
  | .returned value => some value
  | _ => none

/-- The notice on a guarded computation, if it broke off. -/
def notice?
    {α : Type} :
    Attempt α → Option Notice
  | .returned _ => none
  | .brokeOff message => some (.reported message)
  | .brokeOffSilently => some .bare

end Attempt

/-- The failure that a run ends with, and what it was for. -/
structure RunFailure where
  context : Option String
  reason : Failure
  deriving DecidableEq, Repr

/-- How a guarded run went that ends so: only a fault breaks it off. -/
def Ending.attempt : Ending → Attempt (Except RunFailure Unit)
  | .quit => .returned (.ok ())
  | .failed context reason => .returned (.error ⟨context, reason⟩)
  | .faulted fault => .brokeOff fault.message

end TerminalEditor
