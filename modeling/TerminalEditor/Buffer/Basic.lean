import TerminalEditor.Buffer.Distance
import TerminalEditor.Buffer.Gap
import TerminalEditor.Buffer.Storage

/-!
# Gap buffers

A gap buffer keeps a text in one storage around a gap at the cursor.  The
bytes before the gap are the text before the cursor, the bytes after the gap
the text after it, and the gap itself holds zeros.  Inserting fills the gap
from its start and grows the storage before the gap would be used up; moving
the cursor moves bytes across the gap.
-/

namespace TerminalEditor

/-- A text with a cursor, kept around a gap at the cursor. -/
structure GapBuffer where
  storage : Storage
  gap : Gap
  deriving DecidableEq, Repr

namespace GapBuffer

/-- An empty buffer whose gap has `capacity` bytes. -/
def withCapacity (capacity : Nat) : Checked GapBuffer :=
  if capacity < Capacity.storageLimit then
    pure
      { storage := Storage.zeros capacity
        gap := { start := 0, stop := capacity } }
  else
    throw .capacityOverflow

/-- The number of bytes of the storage. -/
def capacity (buffer : GapBuffer) : Nat :=
  buffer.storage.size

/-- The text before the cursor. -/
def front (buffer : GapBuffer) : Bytes :=
  buffer.storage.toList.take buffer.gap.start

/-- The text after the cursor. -/
def back (buffer : GapBuffer) : Bytes :=
  buffer.storage.toList.drop buffer.gap.stop

/-- The whole text. -/
def bytes (buffer : GapBuffer) : Bytes :=
  buffer.front ++ buffer.back

/-- The number of bytes of the text. -/
def length (buffer : GapBuffer) : Nat :=
  buffer.capacity - buffer.gap.size

/-- Whether the text has no byte. -/
def isEmpty (buffer : GapBuffer) : Bool :=
  buffer.length == 0

/-- The buffer itself, provided that its gap lies inside its storage. -/
def settled (buffer : GapBuffer) : Checked GapBuffer := do
  Checked.require (buffer.gap.stop ≤ buffer.capacity) .outOfBounds
  pure buffer

/--
The buffer in a storage of the next capacity from `required`, with the text
after the gap moved to the end of the new storage.
-/
def grow
    (buffer : GapBuffer)
    (required : Nat) :
    Checked GapBuffer := do
  let larger ← Capacity.next required
  if larger ≤ buffer.capacity then
    pure buffer
  else
    Checked.require (larger < Capacity.storageLimit) .capacityOverflow
    let oldStop := buffer.gap.stop
    let behind ← Checked.difference buffer.capacity oldStop
    let newStop ← Checked.difference larger behind
    let extended := buffer.storage.extend larger
    let moved ← extended.copyWithin oldStop buffer.capacity newStop
    let cleared ← moved.clear oldStop (min buffer.capacity newStop)
    pure { storage := cleared, gap := ← buffer.gap.withStop newStop }

/-- The buffer after room was made for `count` bytes to insert. -/
def makeRoom
    (buffer : GapBuffer)
    (count : Nat) :
    Checked GapBuffer := do
  if buffer.gap.size ≤ count then
    let required := buffer.capacity + count
    Checked.require (required < Capacity.countLimit) .capacityOverflow
    buffer.grow required
  else
    pure buffer

/-- The buffer with `inserted` at the cursor and the cursor after it. -/
def insert
    (buffer : GapBuffer)
    (inserted : Bytes) :
    Checked GapBuffer := do
  if inserted.isEmpty then
    pure buffer
  else
    let roomy ← buffer.makeRoom inserted.length
    let storage ← roomy.storage.overwrite roomy.gap.start inserted
    let gap ← roomy.gap.consume inserted.length
    settled { storage, gap }

/-- The buffer with the encoding of `text` inserted at the cursor. -/
def insertText
    (buffer : GapBuffer)
    (text : String) :
    Checked GapBuffer :=
  buffer.insert text.toUTF8.data.toList

/-- The buffer with the encoding of one character inserted at the cursor. -/
def insertChar
    (buffer : GapBuffer)
    (char : Char) :
    Checked GapBuffer :=
  buffer.insert (String.utf8EncodeChar char)

/-- The buffer of standard capacity with `text` before the cursor. -/
def ofText (text : String) : Checked GapBuffer := do
  (← withCapacity Capacity.standard).insertText text

/-- The gap moved left over `count` bytes of the text. -/
def shiftLeft
    (buffer : GapBuffer)
    (count : Nat) :
    Checked GapBuffer := do
  if count = 0 then
    pure buffer
  else
    let start := buffer.gap.start
    let source ← Checked.difference start count
    let target ← Checked.difference buffer.gap.stop count
    let moved ← buffer.storage.copyWithin source start target
    let cleared ← moved.clear source (min start target)
    pure { storage := cleared, gap := ← buffer.gap.retreat count }

/-- The gap moved right over `count` bytes of the text. -/
def shiftRight
    (buffer : GapBuffer)
    (count : Nat) :
    Checked GapBuffer := do
  if count = 0 then
    pure buffer
  else
    let start := buffer.gap.start
    let stop := buffer.gap.stop
    let moved ← buffer.storage.copyWithin stop (stop + count) start
    let cleared ← moved.clear (max stop (start + count)) (stop + count)
    pure { storage := cleared, gap := buffer.gap.advance count }

/--
The cursor moved by `distance` bytes, to the right if it is positive, as far
as there is text.  The first component is the distance really moved.
-/
def shift
    (buffer : GapBuffer)
    (distance : Int) :
    Checked (Int × GapBuffer) := do
  if distance < 0 then
    let count := min distance.natAbs buffer.front.length
    let shifted ← buffer.shiftLeft count
    let moved ← Distance.reversed (Distance.wrapped count)
    pure (moved, ← shifted.settled)
  else
    let count := min distance.natAbs buffer.back.length
    let shifted ← buffer.shiftRight count
    pure (Distance.wrapped count, ← shifted.settled)

@[simp]
theorem insert_nil
    (buffer : GapBuffer) :
    buffer.insert [] = .ok buffer :=
  rfl

end GapBuffer

end TerminalEditor
