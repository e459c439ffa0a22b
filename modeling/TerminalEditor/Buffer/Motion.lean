import TerminalEditor.Buffer.Rows

/-!
# Cursor motions

A motion is a cursor movement independent of the key that asks for it.  Each
motion is one move of the gap.
-/

namespace TerminalEditor

/-- A cursor movement. -/
inductive Motion
  | left
  | right
  | up
  | down
  | lineStart
  | lineEnd
  | pageUp (rows : Nat)
  | pageDown (rows : Nat)
  | to (target : Position)
  deriving DecidableEq, Repr

/-- The buffer with its cursor moved by one motion. -/
def GapBuffer.navigate
    (buffer : GapBuffer) :
    Motion → Checked GapBuffer
  | .left => return (← buffer.shift (-1)).2
  | .right => return (← buffer.shift 1).2
  | .up => buffer.shiftRows (-1)
  | .down => buffer.shiftRows 1
  | .lineStart => do
    let distance ← Distance.reversed (Distance.ofCount buffer.column)
    return (← buffer.shift distance).2
  | .lineEnd =>
    return (← buffer.shift (Distance.ofCount buffer.rowRemaining)).2
  | .pageUp rows => do
    buffer.shiftRows (← Distance.reversed (Distance.ofCount rows))
  | .pageDown rows => buffer.shiftRows (Distance.ofCount rows)
  | .to target => buffer.moveTo target

end TerminalEditor
