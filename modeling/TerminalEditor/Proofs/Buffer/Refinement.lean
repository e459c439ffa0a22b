import TerminalEditor.Proofs.Buffer.Navigation

/-!
# Buffers refine documents

A buffer and a document are used side by side, by the same insertions, shifts
and motions.  What is seen of the buffer after each use is what is seen of the
document.  Only an insertion may fail, and whether it does depends on the
capacity and on the numbers of bytes inserted, as `Occupancy` counts them.
-/

namespace TerminalEditor

/-- One use of a text with a cursor. -/
inductive TextUse
  | insert (bytes : Bytes)
  | insertText (text : String)
  | insertChar (char : Char)
  | shift (distance : Int)
  | shiftRows (rows : Int)
  | moveTo (target : Position)
  | navigate (motion : Motion)
  deriving DecidableEq, Repr

/-- What is seen of a text after a use, with the distance that it tells. -/
structure Seen where
  told : Option Int
  bytes : Bytes
  cursor : Nat
  position : Position
  rowRemaining : Nat
  length : Nat
  deriving DecidableEq, Repr

namespace TextUse

/-- The bytes that a use puts in. -/
def inserted : TextUse → Bytes
  | .insert bytes => bytes
  | .insertText text => text.toUTF8.data.toList
  | .insertChar char => String.utf8EncodeChar char
  | _ => []

/-- A use of a buffer. -/
def onBuffer
    (buffer : GapBuffer) :
    TextUse → Checked (Option Int × GapBuffer)
  | .insert bytes => return (none, ← buffer.insert bytes)
  | .insertText text => return (none, ← buffer.insertText text)
  | .insertChar char => return (none, ← buffer.insertChar char)
  | .shift distance => do
    let (moved, shifted) ← buffer.shift distance
    return (some moved, shifted)
  | .shiftRows rows => return (none, ← buffer.shiftRows rows)
  | .moveTo target => return (none, ← buffer.moveTo target)
  | .navigate motion => return (none, ← buffer.navigate motion)

/-- A use of a document. -/
def onDocument
    (document : Document) :
    TextUse → Option Int × Document
  | .insert bytes => (none, document.insert bytes)
  | .insertText text =>
    (none, document.insert text.toUTF8.data.toList)
  | .insertChar char =>
    (none, document.insert (String.utf8EncodeChar char))
  | .shift distance =>
    (some ((document.shift distance).cursor - document.cursor),
      document.shift distance)
  | .shiftRows rows => (none, document.shiftRows rows)
  | .moveTo target => (none, document.moveTo target)
  | .navigate motion => (none, document.navigate motion)

end TextUse

/-- What is seen of a buffer. -/
def GapBuffer.seen
    (buffer : GapBuffer)
    (told : Option Int) :
    Seen where
  told
  bytes := buffer.bytes
  cursor := buffer.front.length
  position := buffer.position
  rowRemaining := buffer.rowRemaining
  length := buffer.length

/-- What is seen of a document. -/
def Document.seen
    (document : Document)
    (told : Option Int) :
    Seen where
  told
  bytes := document.bytes
  cursor := document.cursor
  position := document.position
  rowRemaining := document.rowRemaining
  length := document.bytes.length

/-- What is seen of a buffer after each of some uses. -/
def GapBuffer.history
    (buffer : GapBuffer) :
    List TextUse → Checked (List Seen)
  | [] => pure []
  | use :: later => do
    let (told, next) ← use.onBuffer buffer
    return next.seen told :: (← next.history later)

/-- What is seen of a document after each of some uses. -/
def Document.history
    (document : Document) :
    List TextUse → List Seen
  | [] => []
  | use :: later =>
    let (told, next) := use.onDocument document
    next.seen told :: next.history later

namespace GapBuffer

variable
    {buffer : GapBuffer}
    {document : Document}

theorem Holds.seen_eq
    (holds : buffer.Holds document)
    (told : Option Int) :
    buffer.seen told = document.seen told := by
  rw [seen, Document.seen, holds.bytes_eq, holds.length_front,
    holds.position_eq, holds.rowRemaining_eq, holds.length_eq]

/-- A move leaves the number of bytes in use as it is. -/
theorem Holds.occupancy_eq
    {moved : GapBuffer}
    {target : Document}
    (holds : buffer.Holds document)
    (movedHolds : moved.Holds target)
    (capacityEq : moved.capacity = buffer.capacity)
    (sameBytes : target.bytes = document.bytes) :
    moved.occupancy = buffer.occupancy := by
  rw [occupancy, occupancy, capacityEq, movedHolds.length_eq, sameBytes,
    holds.length_eq]

end GapBuffer

namespace TextUse

variable
    {buffer : GapBuffer}
    {document : Document}
    {next : Occupancy}

/-- A use that moves the cursor needs no room. -/
private theorem move_of_room
    {result : Checked GapBuffer}
    {target : Document}
    (holds : buffer.Holds document)
    (sameBytes : target.bytes = document.bytes)
    (moves : buffer.MovesTo result target)
    (admitted : buffer.occupancy.insert? 0 = some next) :
    ∃ moved : GapBuffer,
      (do return (none, ← result) : Checked (Option Int × GapBuffer)) =
          .ok (none, moved) ∧
        moved.occupancy = next ∧ moved.Holds target := by
  rcases moves with ⟨moved, rfl, capacityEq, movedHolds⟩
  cases admitted
  exact
    ⟨moved, rfl, holds.occupancy_eq movedHolds capacityEq sameBytes,
      movedHolds⟩

private theorem insert_of_room
    {bytes : Bytes}
    (holds : buffer.Holds document)
    (admitted : buffer.occupancy.insert? bytes.length = some next) :
    ∃ result : GapBuffer,
      (do return (none, ← buffer.insert bytes) :
          Checked (Option Int × GapBuffer)) =
          .ok (none, result) ∧
        result.occupancy = next ∧
        result.Holds (document.insert bytes) := by
  rcases GapBuffer.holds_insert holds admitted with
    ⟨result, inserts, occupancyEq, resultHolds⟩
  exact ⟨result, by rw [inserts]; rfl, occupancyEq, resultHolds⟩

private theorem insert_of_crowded
    {bytes : Bytes}
    (holds : buffer.Holds document)
    (refused : buffer.occupancy.insert? bytes.length = none) :
    (do return (none, ← buffer.insert bytes) :
        Checked (Option Int × GapBuffer)) =
      .error .capacityOverflow := by
  rw [GapBuffer.insert_of_none holds refused]
  rfl

/-- One use of a buffer, when there is room, is the use of the document. -/
theorem onBuffer_of_room
    (use : TextUse)
    (holds : buffer.Holds document)
    (admitted :
      buffer.occupancy.insert? use.inserted.length = some next) :
    ∃ result : GapBuffer,
      use.onBuffer buffer =
          .ok ((use.onDocument document).1, result) ∧
        result.occupancy = next ∧
        result.Holds (use.onDocument document).2 := by
  cases use with
  | insert bytes => exact insert_of_room holds admitted
  | insertText text => exact insert_of_room holds admitted
  | insertChar char => exact insert_of_room holds admitted
  | shift distance =>
    rcases GapBuffer.holds_shift holds distance with
      ⟨shifted, shifts, capacityEq, shiftedHolds⟩
    cases admitted
    exact
      ⟨shifted, by simp [onBuffer, shifts, onDocument],
        holds.occupancy_eq shiftedHolds capacityEq rfl, shiftedHolds⟩
  | shiftRows rows =>
    exact move_of_room holds rfl
      (GapBuffer.movesTo_shiftRows holds rows) admitted
  | moveTo target =>
    exact move_of_room holds rfl
      (GapBuffer.movesTo_moveTo holds target) admitted
  | navigate motion =>
    exact move_of_room holds (Document.bytes_navigate document motion)
      (GapBuffer.movesTo_navigate holds motion) admitted

/-- Without room a use overflows, and it is an insertion. -/
theorem onBuffer_of_crowded
    (use : TextUse)
    (holds : buffer.Holds document)
    (refused : buffer.occupancy.insert? use.inserted.length = none) :
    use.onBuffer buffer = .error .capacityOverflow := by
  cases use with
  | insert bytes => exact insert_of_crowded holds refused
  | insertText text => exact insert_of_crowded holds refused
  | insertChar char => exact insert_of_crowded holds refused
  | shift distance => cases refused
  | shiftRows rows => cases refused
  | moveTo target => cases refused
  | navigate motion => cases refused

end TextUse

/-- Whole histories agree as long as there is room for what is inserted. -/
theorem GapBuffer.Holds.history_eq
    {buffer : GapBuffer}
    {document : Document}
    (holds : buffer.Holds document)
    (uses : List TextUse) :
    buffer.history uses =
      if (buffer.occupancy.insertAll?
          (uses.map (·.inserted.length))).isSome then
        .ok (document.history uses)
      else
        .error .capacityOverflow := by
  induction uses generalizing buffer document with
  | nil => rfl
  | cons use later ih =>
    rw [GapBuffer.history, List.map_cons, Occupancy.insertAll?]
    cases room : buffer.occupancy.insert? use.inserted.length with
    | none =>
      rw [use.onBuffer_of_crowded holds room]
      rfl
    | some next =>
      rcases use.onBuffer_of_room holds room with
        ⟨result, answered, rfl, resultHolds⟩
      simp only [answered, Checked.ok_bind, Option.bind_some,
        ih resultHolds, resultHolds.seen_eq, Document.history]
      split <;> rfl

/--
A new buffer is used just as the empty document is, and what is seen after each
use is the same.  It fails exactly if an insertion finds no storage that may
exist and is large enough, and a quarter of the largest storage is always found.
-/
theorem history_of_new_buffer
    (capacity : Nat)
    (small : capacity < Capacity.storageLimit)
    (uses : List TextUse) :
    (do (← GapBuffer.withCapacity capacity).history uses) =
        (if (Occupancy.insertAll? ⟨capacity, 0⟩
            (uses.map (·.inserted.length))).isSome then
          .ok (Document.history ⟨[], 0⟩ uses)
        else
          .error .capacityOverflow) ∧
      ((uses.flatMap TextUse.inserted).length ≤
          Capacity.storageLimit / 4 →
        (Occupancy.insertAll? ⟨capacity, 0⟩
          (uses.map (·.inserted.length))).isSome) := by
  rcases GapBuffer.holds_withCapacity small with
    ⟨buffer, created, occupancyEq, holds⟩
  constructor
  · rw [created, Checked.ok_bind, holds.history_eq, occupancyEq]
  · intro short
    have total :
        0 + (uses.map TextUse.inserted).flatten.length ≤
          Capacity.storageLimit / 4 := by
      rwa [Nat.zero_add, ← List.flatMap_def]
    have admitted :
        (Occupancy.insertAll? ⟨capacity, 0⟩
          ((uses.map TextUse.inserted).map (·.length))).isSome :=
      Occupancy.isSome_insertAll? _ total
    rwa [List.map_map] at admitted

/-- A full buffer grows around its back, and rows are left in both directions. -/
theorem history_of_tight_buffer :
    1 < Capacity.storageLimit ∧
      (do
        (← GapBuffer.withCapacity 1).history
          [.insertText "ab\nc", .navigate .up, .shift (-5),
            .insertChar 'é', .moveTo ⟨7, 0⟩]) =
        .ok
          [⟨none, [97, 98, 10, 99], 4, ⟨1, 1⟩, 0, 4⟩,
            ⟨none, [97, 98, 10, 99], 1, ⟨0, 1⟩, 1, 4⟩,
            ⟨some (-1), [97, 98, 10, 99], 0, ⟨0, 0⟩, 2, 4⟩,
            ⟨none, [195, 169, 97, 98, 10, 99], 2, ⟨0, 2⟩, 2, 6⟩,
            ⟨none, [195, 169, 97, 98, 10, 99], 5, ⟨1, 0⟩, 1, 6⟩] := by
  refine ⟨by decide, (history_of_new_buffer 1 (by decide) _).1.trans ?_⟩
  rfl

end TerminalEditor
