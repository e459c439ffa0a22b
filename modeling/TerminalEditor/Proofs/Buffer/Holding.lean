import TerminalEditor.Proofs.Buffer.Layout

/-!
# Buffers that hold a document

A buffer holds a document when its storage is laid out around the document's
cursor.  Everything that is read off the buffer is then read off the document.
An insertion succeeds or overflows by the number of bytes in use alone, and a
shift of the gap moves the document's cursor.
-/

namespace TerminalEditor

/-- The number of bytes a storage has, and the number of them in use. -/
structure Occupancy where
  capacity : Nat
  length : Nat
  deriving DecidableEq, Repr

namespace Occupancy

/--
The occupancy after `count` more bytes, if there is one.  The storage grows
before its last free byte would be used.
-/
def insert?
    (occupancy : Occupancy)
    (count : Nat) :
    Option Occupancy :=
  if count = 0 ∨ count < occupancy.capacity - occupancy.length then
    some { occupancy with length := occupancy.length + count }
  else if
      Capacity.powerOfTwoFrom (occupancy.capacity + count) <
        Capacity.storageLimit then
    some
      ⟨Capacity.powerOfTwoFrom (occupancy.capacity + count),
        occupancy.length + count⟩
  else
    none

/-- The occupancy after several insertions, if all of them have room. -/
def insertAll? (occupancy : Occupancy) : List Nat → Option Occupancy
  | [] => some occupancy
  | count :: later => (occupancy.insert? count).bind (·.insertAll? later)

variable
    {occupancy next : Occupancy}
    {count : Nat}

theorem insert?_of_room
    (room : count = 0 ∨ count < occupancy.capacity - occupancy.length) :
    occupancy.insert? count =
      some { occupancy with length := occupancy.length + count } :=
  if_pos room

/-- A crowded storage grows to a power of two, if that exists. -/
theorem insert?_of_crowded
    (positive : count ≠ 0)
    (crowded : occupancy.capacity - occupancy.length ≤ count) :
    occupancy.insert? count =
      if Capacity.powerOfTwoFrom (occupancy.capacity + count) <
          Capacity.storageLimit then
        some
          ⟨Capacity.powerOfTwoFrom (occupancy.capacity + count),
            occupancy.length + count⟩
      else
        none :=
  if_neg (by omega)

/-- What is refused would have to grow to a storage that cannot exist. -/
theorem insert?_eq_none_iff :
    occupancy.insert? count = none ↔
      count ≠ 0 ∧ occupancy.capacity - occupancy.length ≤ count ∧
        Capacity.storageLimit ≤
          Capacity.powerOfTwoFrom (occupancy.capacity + count) := by
  by_cases room :
      count = 0 ∨ count < occupancy.capacity - occupancy.length
  · rw [insert?_of_room room]
    constructor
    · nofun
    · rintro ⟨positive, crowded, -⟩
      omega
  · rw [not_or, Nat.not_lt] at room
    rw [insert?_of_crowded room.1 room.2]
    split
    · next bounded =>
      constructor
      · nofun
      · rintro ⟨-, -, tooLarge⟩
        exact absurd bounded (Nat.not_lt.mpr tooLarge)
    · next unbounded =>
      constructor
      · intro
        exact ⟨room.1, room.2, Nat.not_lt.mp unbounded⟩
      · intro
        rfl

/--
Texts of a quarter of the largest storage are always admitted.  A storage grows
only if it is nearly full, and then to less than four times what it has to hold.
-/
theorem isSome_insertAll?
    (texts : List Bytes)
    (short :
      occupancy.length + texts.flatten.length ≤ Capacity.storageLimit / 4) :
    (occupancy.insertAll? (texts.map (·.length))).isSome := by
  induction texts generalizing occupancy with
  | nil => rfl
  | cons text later ih =>
    rw [List.flatten_cons, List.length_append, ← Nat.add_assoc] at short
    rw [List.map_cons, insertAll?]
    by_cases room :
        text.length = 0 ∨
          text.length < occupancy.capacity - occupancy.length
    · rw [insert?_of_room room]
      exact ih short
    · have quarter : Capacity.storageLimit / 4 = 1 <<< 61 := by decide
      have required : occupancy.capacity + text.length ≤ 1 <<< 62 := by
        rw [quarter] at short
        omega
      have exists_capacity :
          Capacity.powerOfTwoFrom (occupancy.capacity + text.length) <
            Capacity.storageLimit :=
        Nat.lt_of_le_of_lt (Capacity.powerOfTwoFrom_le required) (by decide)
      rw [insert?_of_crowded (by omega) (by omega), if_pos exists_capacity]
      exact ih short

/-- Every insertion that is admitted adds its bytes to the ones in use. -/
theorem length_of_insert?
    (admitted : occupancy.insert? count = some next) :
    next.length = occupancy.length + count := by
  rw [insert?] at admitted
  split at admitted
  · cases admitted
    rfl
  · split at admitted
    · cases admitted
      rfl
    · cases admitted

end Occupancy

namespace GapBuffer

/-- The bytes that a buffer has and uses. -/
def occupancy (buffer : GapBuffer) : Occupancy :=
  ⟨buffer.capacity, buffer.length⟩

@[simp]
theorem capacity_occupancy
    (buffer : GapBuffer) :
    buffer.occupancy.capacity = buffer.capacity :=
  rfl

@[simp]
theorem length_occupancy
    (buffer : GapBuffer) :
    buffer.occupancy.length = buffer.length :=
  rfl

/-- The storage of a buffer is laid out around the cursor of a document. -/
structure Holds
    (buffer : GapBuffer)
    (document : Document) : Prop where
  inside : document.cursor ≤ document.bytes.length
  layout : buffer.Layout document.before document.after

namespace Holds

variable
    {buffer : GapBuffer}
    {document : Document}

theorem length_before
    (holds : buffer.Holds document) :
    document.before.length = document.cursor := by
  simp [Document.before, Nat.min_eq_left holds.inside]

theorem front_eq
    (holds : buffer.Holds document) :
    buffer.front = document.before :=
  holds.layout.front_eq

theorem back_eq
    (holds : buffer.Holds document) :
    buffer.back = document.after :=
  holds.layout.back_eq

theorem bytes_eq
    (holds : buffer.Holds document) :
    buffer.bytes = document.bytes := by
  rw [holds.layout.bytes_eq, Document.before, Document.after,
    List.take_append_drop]

theorem length_front
    (holds : buffer.Holds document) :
    buffer.front.length = document.cursor := by
  rw [holds.front_eq, holds.length_before]

theorem length_eq
    (holds : buffer.Holds document) :
    buffer.length = document.bytes.length := by
  rw [holds.layout.length_eq, ← List.length_append, Document.before,
    Document.after, List.take_append_drop]

/-- The document that a buffer holds is the one it stands for. -/
theorem document_eq
    (holds : buffer.Holds document) :
    buffer.document = document := by
  rw [GapBuffer.document, holds.bytes_eq, holds.length_front]

theorem length_lt
    (holds : buffer.Holds document) :
    document.bytes.length < Capacity.storageLimit := by
  rw [← holds.length_eq, holds.layout.length_eq]
  exact holds.layout.length_lt

end Holds

/-- A buffer laid out around two texts holds the document made of them. -/
theorem Layout.holds
    {buffer : GapBuffer}
    {before after : Bytes}
    (layout : buffer.Layout before after) :
    buffer.Holds ⟨before ++ after, before.length⟩ := by
  constructor
  · simp
  · simpa [Document.before, Document.after] using layout

/-- A new buffer holds the empty document. -/
theorem holds_withCapacity
    {capacity : Nat}
    (small : capacity < Capacity.storageLimit) :
    ∃ buffer : GapBuffer,
      withCapacity capacity = .ok buffer ∧
        buffer.occupancy = ⟨capacity, 0⟩ ∧ buffer.Holds ⟨[], 0⟩ := by
  rcases layout_withCapacity small with ⟨buffer, created, capacityEq, layout⟩
  refine ⟨buffer, created, ?_, layout.holds⟩
  rw [occupancy, capacityEq, layout.length_eq]
  rfl

/-- A buffer that was made is a new one. -/
theorem holds_of_withCapacity
    {capacity : Nat}
    {buffer : GapBuffer}
    (created : withCapacity capacity = .ok buffer) :
    buffer.occupancy = ⟨capacity, 0⟩ ∧ buffer.Holds ⟨[], 0⟩ := by
  have small : capacity < Capacity.storageLimit := by
    apply Decidable.byContradiction
    intro large
    rw [withCapacity, if_neg large] at created
    cases created
  rcases holds_withCapacity small with ⟨other, made, new⟩
  rw [created] at made
  cases made
  exact new

/-- The free bytes of a storage are the ones of the gap. -/
theorem Layout.free_eq
    {buffer : GapBuffer}
    {before after : Bytes}
    (layout : buffer.Layout before after) :
    buffer.occupancy.capacity - buffer.occupancy.length =
      buffer.gap.size := by
  simp only [occupancy, layout.capacity_eq, layout.length_eq]
  omega

/-- There is room for as many bytes as the occupancy allows. -/
theorem layout_makeRoom
    {buffer : GapBuffer}
    {before after : Bytes}
    {count : Nat}
    {next : Occupancy}
    (layout : buffer.Layout before after)
    (positive : count ≠ 0)
    (admitted : buffer.occupancy.insert? count = some next) :
    ∃ roomy : GapBuffer,
      buffer.makeRoom count = .ok roomy ∧
        roomy.capacity = next.capacity ∧
        count ≤ roomy.gap.size ∧ roomy.Layout before after := by
  have freeEq := layout.free_eq
  by_cases crowded : buffer.gap.size ≤ count
  · rw [Occupancy.insert?_of_crowded positive (freeEq ▸ crowded),
      capacity_occupancy] at admitted
    split at admitted
    · next bounded =>
      cases admitted
      have enough :
          buffer.capacity + count ≤
            Capacity.powerOfTwoFrom (buffer.capacity + count) :=
        Capacity.le_powerOfTwoFrom _
      have counted :
          buffer.capacity + count < Capacity.countLimit :=
        Nat.lt_of_le_of_lt enough (Nat.lt_trans bounded (by decide))
      rcases layout_grow layout (by omega) bounded with
        ⟨grown, grows, capacityEq, grownLayout⟩
      refine ⟨grown, ?_, capacityEq, ?_, grownLayout⟩
      · simpa only [makeRoom, if_pos crowded, Checked.require_of counted,
          Checked.ok_bind] using grows
      · have before := layout.capacity_eq
        have afterwards := grownLayout.capacity_eq
        omega
    · cases admitted
  · rw [Occupancy.insert?_of_room (Or.inr (by omega))] at admitted
    cases admitted
    exact ⟨buffer, if_neg crowded, rfl, by omega, layout⟩

/-- An insertion that has room puts bytes in before the cursor. -/
theorem holds_insert
    {buffer : GapBuffer}
    {document : Document}
    {inserted : Bytes}
    {next : Occupancy}
    (holds : buffer.Holds document)
    (admitted :
      buffer.occupancy.insert? inserted.length = some next) :
    ∃ result : GapBuffer,
      buffer.insert inserted = .ok result ∧
        result.occupancy = next ∧
        result.Holds (document.insert inserted) := by
  have insertedHolds :
      ∀ result : GapBuffer,
        result.Layout (document.before ++ inserted) document.after →
          result.Holds (document.insert inserted) := by
    intro result layout
    have around := layout.holds
    rwa [List.length_append, holds.length_before] at around
  by_cases empty : inserted = []
  · subst empty
    rw [Occupancy.insert?_of_room (Or.inl List.length_nil)] at admitted
    cases admitted
    refine ⟨buffer, rfl, rfl, insertedHolds buffer ?_⟩
    simpa using holds.layout
  · have positive : inserted.length ≠ 0 := by simpa using empty
    rcases layout_makeRoom holds.layout positive admitted with
      ⟨roomy, makes, capacityEq, fits, roomyLayout⟩
    rcases layout_overwrite roomyLayout fits with
      ⟨storage, gap, overwrites, consumes, sized, layout⟩
    refine ⟨⟨storage, gap⟩, ?_, ?_, insertedHolds _ layout⟩
    · rw [insert, if_neg (by simpa using empty), makes, Checked.ok_bind,
        overwrites, Checked.ok_bind, consumes, Checked.ok_bind,
        layout.settled_eq]
    · have lengthEq :
          (document.before ++ inserted).length + document.after.length =
            next.length := by
        rw [Occupancy.length_of_insert? admitted, length_occupancy,
          holds.layout.length_eq, List.length_append]
        omega
      rw [occupancy, layout.length_eq, lengthEq, capacity, sized,
        capacityEq]

/-- An insertion without room overflows. -/
theorem insert_of_none
    {buffer : GapBuffer}
    {document : Document}
    {inserted : Bytes}
    (holds : buffer.Holds document)
    (refused : buffer.occupancy.insert? inserted.length = none) :
    buffer.insert inserted = .error .capacityOverflow := by
  rcases Occupancy.insert?_eq_none_iff.mp refused with
    ⟨positive, crowded, tooLarge⟩
  rw [holds.layout.free_eq] at crowded
  have unbounded := Nat.not_lt.mpr tooLarge
  rw [capacity_occupancy] at unbounded
  have overflows :
      buffer.makeRoom inserted.length = .error .capacityOverflow := by
    by_cases counted :
        buffer.capacity + inserted.length < Capacity.countLimit
    · have enough :=
        Capacity.le_powerOfTwoFrom (buffer.capacity + inserted.length)
      simp only [makeRoom, if_pos crowded, Checked.require_of counted,
        Checked.ok_bind, grow, Capacity.next]
      split
      · rw [Checked.pure_eq_ok, Checked.ok_bind, if_neg (by omega),
          Checked.require_of_not unbounded]
        rfl
      · rfl
    · simp only [makeRoom, if_pos crowded,
        Checked.require_of_not counted, Checked.error_bind]
  rw [insert, if_neg (by simpa using positive), overflows]
  rfl

/-- A result that holds a document in a storage of the same size. -/
def MovesTo
    (buffer : GapBuffer)
    (result : Checked GapBuffer)
    (document : Document) : Prop :=
  ∃ moved : GapBuffer,
    result = .ok moved ∧ moved.capacity = buffer.capacity ∧
      moved.Holds document

/-- The gap moves left to any place before it. -/
theorem holds_shiftLeft
    {buffer : GapBuffer}
    {document : Document}
    {target : Nat}
    (holds : buffer.Holds document)
    (leftwards : target ≤ document.cursor) :
    buffer.MovesTo (buffer.shiftLeft (document.cursor - target))
      { document with cursor := target } := by
  have inside := holds.inside
  have keptEq :
      document.bytes.take target ++
          (document.bytes.take document.cursor).drop target =
        document.before := by
    have kept :
        document.bytes.take target =
          (document.bytes.take document.cursor).take target := by
      rw [List.take_take, Nat.min_eq_left leftwards]
    rw [kept, List.take_append_drop, Document.before]
  have afterEq :
      (document.bytes.take document.cursor).drop target ++
          document.after =
        document.bytes.drop target := by
    have short :
        target ≤ (document.bytes.take document.cursor).length := by
      rw [List.length_take]
      omega
    rw [Document.after, ← List.drop_append_of_le_length short,
      List.take_append_drop]
  have layout := keptEq.symm ▸ holds.layout
  rcases layout_shiftLeft layout with
    ⟨shifted, shifts, capacityEq, shiftedLayout⟩
  have countEq :
      ((document.bytes.take document.cursor).drop target).length =
        document.cursor - target := by
    simp only [List.length_drop, List.length_take]
    omega
  rw [countEq] at shifts
  rw [afterEq] at shiftedLayout
  exact ⟨shifted, shifts, capacityEq, ⟨by simp; omega, shiftedLayout⟩⟩

/-- The gap moves right to any place after it. -/
theorem holds_shiftRight
    {buffer : GapBuffer}
    {document : Document}
    {target : Nat}
    (holds : buffer.Holds document)
    (rightwards : document.cursor ≤ target)
    (targetInside : target ≤ document.bytes.length) :
    buffer.MovesTo (buffer.shiftRight (target - document.cursor))
      { document with cursor := target } := by
  have crossedEq :
      (document.bytes.take target).drop document.cursor ++
          document.bytes.drop target =
        document.after := by
    have short :
        document.cursor ≤ (document.bytes.take target).length := by
      rw [List.length_take]
      omega
    rw [Document.after, ← List.drop_append_of_le_length short,
      List.take_append_drop]
  have beforeEq :
      document.before ++
          (document.bytes.take target).drop document.cursor =
        document.bytes.take target := by
    have kept :
        document.before =
          (document.bytes.take target).take document.cursor := by
      rw [List.take_take, Nat.min_eq_left rightwards, Document.before]
    rw [kept, List.take_append_drop]
  have layout := crossedEq.symm ▸ holds.layout
  rcases layout_shiftRight layout with
    ⟨shifted, shifts, capacityEq, shiftedLayout⟩
  have countEq :
      ((document.bytes.take target).drop document.cursor).length =
        target - document.cursor := by
    simp only [List.length_drop, List.length_take]
    omega
  rw [countEq] at shifts
  rw [beforeEq] at shiftedLayout
  exact ⟨shifted, shifts, capacityEq, ⟨targetInside, shiftedLayout⟩⟩

/-- A shift moves the cursor as far as there is text, and tells how far. -/
theorem holds_shift
    {buffer : GapBuffer}
    {document : Document}
    (holds : buffer.Holds document)
    (distance : Int) :
    ∃ shifted : GapBuffer,
      buffer.shift distance =
          .ok ((document.shift distance).cursor - document.cursor,
            shifted) ∧
        shifted.capacity = buffer.capacity ∧
        shifted.Holds (document.shift distance) := by
  have inside := holds.inside
  have lengthBack :
      buffer.back.length = document.bytes.length - document.cursor := by
    rw [holds.back_eq, Document.after, List.length_drop]
  rw [shift, Document.shift, holds.length_front, lengthBack]
  generalize targetEq :
    Document.clamp document.bytes.length (document.cursor + distance) =
      target
  rw [Document.clamp] at targetEq
  by_cases leftwards : distance < 0
  · have before : target ≤ document.cursor := by omega
    have countEq :
        min distance.natAbs document.cursor =
          document.cursor - target := by
      omega
    have movedEq :
        Distance.reversed (Distance.wrapped (document.cursor - target)) =
          .ok (target - document.cursor) := by
      have short : document.cursor - target ≤ document.bytes.length := by
        omega
      rw [Distance.wrapped_of_lt
          (Nat.lt_of_le_of_lt short holds.length_lt),
        Distance.reversed_of_nonneg (Int.natCast_nonneg _)]
      congr 1
      omega
    rcases holds_shiftLeft holds before with
      ⟨shifted, shifts, capacityEq, shiftedHolds⟩
    refine ⟨shifted, ?_, capacityEq, shiftedHolds⟩
    simp only [if_pos leftwards, countEq, shifts, movedEq, Checked.ok_bind,
      shiftedHolds.layout.settled_eq, Checked.pure_eq_ok]
  · have behind : document.cursor ≤ target := by omega
    have countEq :
        min distance.natAbs (document.bytes.length - document.cursor) =
          target - document.cursor := by
      omega
    have movedEq :
        Distance.wrapped (target - document.cursor) =
          target - document.cursor := by
      have short : target - document.cursor ≤ document.bytes.length := by
        omega
      rw [Distance.wrapped_of_lt
        (Nat.lt_of_le_of_lt short holds.length_lt)]
      omega
    rcases holds_shiftRight holds behind (by omega) with
      ⟨shifted, shifts, capacityEq, shiftedHolds⟩
    refine ⟨shifted, ?_, capacityEq, shiftedHolds⟩
    simp only [if_neg leftwards, countEq, shifts, movedEq, Checked.ok_bind,
      shiftedHolds.layout.settled_eq, Checked.pure_eq_ok]

/-- A shift by the way to a place moves the cursor to that place. -/
theorem movesTo_of_shift
    {buffer : GapBuffer}
    {document : Document}
    {distance : Int}
    {target : Nat}
    (holds : buffer.Holds document)
    (targetInside : target ≤ document.bytes.length)
    (distanceEq : document.cursor + distance = target) :
    buffer.MovesTo (return (← buffer.shift distance).2)
      { document with cursor := target } := by
  rcases holds_shift holds distance with
    ⟨shifted, shifts, capacityEq, shiftedHolds⟩
  have cursorEq :
      document.shift distance = { document with cursor := target } := by
    rw [Document.shift, Document.clamp, distanceEq]
    congr 1
    omega
  exact ⟨shifted, by simp [shifts], capacityEq, cursorEq ▸ shiftedHolds⟩

end GapBuffer

end TerminalEditor
