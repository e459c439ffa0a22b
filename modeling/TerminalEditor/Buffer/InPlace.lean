import TerminalEditor.Buffer.Basic

/-!
# Insertion in place

A buffer that takes an insertion is changed part by part: its storage is
extended, the text after the gap is moved to the new end, the place it left is
cleared, the gap is widened, and then the bytes are written and the gap is
narrowed again.  A check that fails on the way stops the change and leaves the
buffer as the parts before it have made it.
-/

namespace TerminalEditor

/-- A change of a buffer in place, which a fault may stop on the way. -/
abbrev Change (α : Type) : Type :=
  EStateM Fault GapBuffer α

namespace Change

/-- A check, which leaves the buffer as it is. -/
def check
    {α : Type}
    (checked : Checked α) :
    Change α :=
  fun buffer =>
    match checked with
    | .ok value => .ok value buffer
    | .error fault => .error fault buffer

/-- Replaces the buffer by the one that an operation makes of it. -/
def replace
    {α : Type}
    (operation : GapBuffer → Checked (α × GapBuffer)) :
    Change α :=
  fun buffer =>
    match operation buffer with
    | .ok (value, next) => .ok value next
    | .error fault => .error fault buffer

/-- Changes the storage and leaves the gap as it is. -/
def onStorage (operation : Storage → Checked Storage) : Change Unit := do
  let storage ← check (operation (← get).storage)
  modify ({ · with storage })

/-- Changes the gap and leaves the storage as it is. -/
def onGap (operation : Gap → Checked Gap) : Change Unit := do
  let gap ← check (operation (← get).gap)
  modify ({ · with gap })

/-- Moves the buffer into a storage of the next capacity from `required`. -/
def grow (required : Nat) : Change Unit := do
  let buffer ← get
  let larger ← check (Capacity.next required)
  if larger ≤ buffer.capacity then
    pure ()
  else
    check
      (Checked.require (larger < Capacity.storageLimit) .capacityOverflow)
    let oldStop := buffer.gap.stop
    let behind ← check (Checked.difference buffer.capacity oldStop)
    let newStop ← check (Checked.difference larger behind)
    onStorage fun storage => pure (storage.extend larger)
    onStorage (·.copyWithin oldStop buffer.capacity newStop)
    onStorage (·.clear oldStop (min buffer.capacity newStop))
    onGap (·.withStop newStop)

/-- Makes room for `count` bytes to insert. -/
def makeRoom (count : Nat) : Change Unit := do
  let buffer ← get
  if buffer.gap.size ≤ count then
    let required := buffer.capacity + count
    check
      (Checked.require (required < Capacity.countLimit) .capacityOverflow)
    grow required
  else
    pure ()

/-- Puts bytes in at the cursor and leaves the cursor after them. -/
def insert (inserted : Bytes) : Change Unit := do
  if inserted.isEmpty then
    pure ()
  else
    makeRoom inserted.length
    let start := (← get).gap.start
    onStorage (·.overwrite start inserted)
    onGap (·.consume inserted.length)
    let buffer ← get
    check (Checked.require (buffer.gap.stop ≤ buffer.capacity) .outOfBounds)

end Change

end TerminalEditor
