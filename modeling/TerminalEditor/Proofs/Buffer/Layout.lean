import TerminalEditor.Buffer.Document

/-!
# The layout of a storage around its gap

The storage of a buffer is the text before the cursor, one zero byte for each
byte of the gap, and the text after the cursor.  `Layout` states this, and every
operation that moves the gap or enlarges the storage is given by the layout it
leaves: none of them faults while its range lies in the text.
-/

namespace TerminalEditor

namespace Storage

/-- Overwriting replaces a run of the same length. -/
theorem overwrite_between
    {storage : Storage}
    {kept replaced following bytes : Bytes}
    (view : storage.toList = kept ++ replaced ++ following)
    (fits : bytes.length = replaced.length) :
    ∃ written : Storage,
      storage.overwrite kept.length bytes = .ok written ∧
        written.toList = kept ++ bytes ++ following := by
  have inside : kept.length + bytes.length ≤ storage.size := by
    rw [← Array.length_toList, view]
    simp only [List.length_append]
    omega
  rcases overwrite_of_le inside with ⟨written, result, writtenView⟩
  refine ⟨written, result, ?_⟩
  rw [writtenView, view, fits, ← List.length_append, List.drop_left]
  simp

/-- A slice between two runs is the run there. -/
theorem slice_between
    {storage : Storage}
    {earlier wanted later : Bytes}
    (view : storage.toList = earlier ++ wanted ++ later) :
    storage.slice earlier.length (earlier.length + wanted.length) =
      .ok wanted := by
  rw [slice_of_le (Nat.le_add_right _ _), view]
  · simp
  · rw [← Array.length_toList, view]
    simp only [List.length_append]
    omega

/-- A copy reads one run and replaces another, which may overlap it. -/
theorem copyWithin_between
    {storage : Storage}
    {earlier moved later kept replaced following : Bytes}
    (source : storage.toList = earlier ++ moved ++ later)
    (target : storage.toList = kept ++ replaced ++ following)
    (fits : moved.length = replaced.length) :
    ∃ written : Storage,
      storage.copyWithin earlier.length
          (earlier.length + moved.length) kept.length =
        .ok written ∧
      written.toList = kept ++ moved ++ following := by
  rw [copyWithin, slice_between source, Checked.ok_bind]
  exact overwrite_between target fits

/-- Clearing replaces a run by as many zeros. -/
theorem clear_between
    {storage : Storage}
    {kept replaced following : Bytes}
    (view : storage.toList = kept ++ replaced ++ following) :
    ∃ written : Storage,
      storage.clear kept.length (kept.length + replaced.length) =
        .ok written ∧
      written.toList =
        kept ++ List.replicate replaced.length 0 ++ following := by
  rw [clear, Checked.difference_of_le (Nat.le_add_right _ _),
    Checked.ok_bind, Nat.add_sub_cancel_left]
  exact overwrite_between view List.length_replicate

theorem toList_extend
    (storage : Storage)
    (size : Nat) :
    (storage.extend size).toList =
      storage.toList ++ List.replicate (size - storage.size) 0 := by
  simp [extend]

/-- The zeros moved over and the bytes cleared make up the gap again. -/
private theorem zeros_after_cleared
    (moved : Bytes)
    (count : Nat) :
    List.replicate (min moved.length count) 0 ++
        ((moved ++ List.replicate count 0).take count).drop
          (min moved.length count) =
      List.replicate count 0 := by
  rcases Nat.le_total moved.length count with short | long
  · simp [Nat.min_eq_left short, List.take_append,
      List.take_of_length_le short, List.replicate_append_replicate]
    omega
  · simp [Nat.min_eq_right long, List.take_append_of_le_length long]

private theorem zeros_before_cleared
    (moved : Bytes)
    (count : Nat) :
    ((List.replicate count 0 ++ moved).drop moved.length).take
          (count - moved.length) ++
        List.replicate (min count moved.length) 0 =
      List.replicate count 0 := by
  rcases Nat.le_total moved.length count with short | long
  · simp [Nat.min_eq_right short, List.drop_append,
      List.replicate_append_replicate]
    omega
  · simp [Nat.min_eq_left long, Nat.sub_eq_zero_of_le long]

/--
Bytes copied up over the zeros behind them, and then cleared where they are not
covered by the copy.
-/
theorem slide_up
    {storage : Storage}
    {kept moved following : Bytes}
    {count : Nat}
    (view :
      storage.toList =
        kept ++ moved ++ List.replicate count 0 ++ following) :
    ∃ copied cleared : Storage,
      storage.copyWithin kept.length (kept.length + moved.length)
          (kept.length + count) =
        .ok copied ∧
      copied.clear kept.length
          (min (kept.length + moved.length) (kept.length + count)) =
        .ok cleared ∧
      cleared.toList =
        kept ++ List.replicate count 0 ++ moved ++ following := by
  generalize crossedEq : moved ++ List.replicate count 0 = crossed
  have crossedLength : crossed.length = moved.length + count := by
    simp [← crossedEq]
  have source :
      storage.toList =
        kept ++ moved ++ (List.replicate count 0 ++ following) := by
    simp [view]
  have target :
      storage.toList =
        (kept ++ crossed.take count) ++ crossed.drop count ++
          following := by
    rw [List.append_assoc kept, List.take_append_drop, view, ← crossedEq]
    simp
  have fits : moved.length = (crossed.drop count).length := by
    rw [List.length_drop, crossedLength, Nat.add_sub_cancel]
  rcases copyWithin_between source target fits with
    ⟨copied, copies, copiedView⟩
  have vacated :
      copied.toList =
        kept ++ (crossed.take count).take (min moved.length count) ++
          ((crossed.take count).drop (min moved.length count) ++
            (moved ++ following)) := by
    rw [copiedView, List.append_assoc kept ((crossed.take count).take _),
      ← List.append_assoc ((crossed.take count).take _),
      List.take_append_drop]
    simp
  rcases clear_between vacated with ⟨cleared, clears, clearedView⟩
  have targetIndex :
      (kept ++ crossed.take count).length = kept.length + count := by
    rw [List.length_append, List.length_take, crossedLength]
    omega
  have vacatedLength :
      ((crossed.take count).take (min moved.length count)).length =
        min moved.length count := by
    simp only [List.length_take, crossedLength]
    omega
  refine ⟨copied, cleared, targetIndex ▸ copies, ?_, ?_⟩
  · rw [vacatedLength] at clears
    rwa [Nat.add_min_add_left]
  · rw [clearedView, vacatedLength, List.append_assoc kept,
      ← List.append_assoc (List.replicate _ 0), ← crossedEq,
      zeros_after_cleared]
    simp

/--
Bytes copied down over the zeros before them, and then cleared where they are
not covered by the copy.
-/
theorem slide_down
    {storage : Storage}
    {kept moved following : Bytes}
    {count : Nat}
    (view :
      storage.toList =
        kept ++ List.replicate count 0 ++ moved ++ following) :
    ∃ copied cleared : Storage,
      storage.copyWithin (kept.length + count)
          (kept.length + count + moved.length) kept.length =
        .ok copied ∧
      copied.clear
          (max (kept.length + count) (kept.length + moved.length))
          (kept.length + count + moved.length) =
        .ok cleared ∧
      cleared.toList =
        kept ++ moved ++ List.replicate count 0 ++ following := by
  generalize crossedEq : List.replicate count 0 ++ moved = crossed
  have crossedLength : crossed.length = count + moved.length := by
    simp [← crossedEq]
  have source :
      storage.toList =
        (kept ++ List.replicate count 0) ++ moved ++ following :=
    view
  have target :
      storage.toList =
        kept ++ crossed.take moved.length ++
          (crossed.drop moved.length ++ following) := by
    rw [List.append_assoc kept, ← List.append_assoc (crossed.take _),
      List.take_append_drop, view, ← crossedEq]
    simp
  have fits : moved.length = (crossed.take moved.length).length := by
    rw [List.length_take, crossedLength]
    omega
  rcases copyWithin_between source target fits with
    ⟨copied, copies, copiedView⟩
  generalize behindEq : crossed.drop moved.length = behind at copiedView
  have behindLength : behind.length = count := by
    rw [← behindEq, List.length_drop, crossedLength, Nat.add_sub_cancel]
  have vacated :
      copied.toList =
        (kept ++ moved ++ behind.take (count - moved.length)) ++
          behind.drop (count - moved.length) ++ following := by
    rw [copiedView, List.append_assoc (kept ++ moved),
      List.take_append_drop, List.append_assoc (kept ++ moved)]
  rcases clear_between vacated with ⟨cleared, clears, clearedView⟩
  have vacatedIndex :
      (kept ++ moved ++ behind.take (count - moved.length)).length =
        max (kept.length + count) (kept.length + moved.length) := by
    simp only [List.length_append, List.length_take, behindLength]
    omega
  have vacatedLength :
      (behind.drop (count - moved.length)).length =
        min count moved.length := by
    rw [List.length_drop, behindLength]
    omega
  refine ⟨copied, cleared, ?_, ?_, ?_⟩
  · simpa using copies
  · rw [vacatedIndex, vacatedLength] at clears
    have stops :
        max (kept.length + count) (kept.length + moved.length) +
            min count moved.length =
          kept.length + count + moved.length := by
      omega
    rwa [stops] at clears
  · rw [clearedView, vacatedLength, List.append_assoc (kept ++ moved),
      ← behindEq, ← crossedEq, zeros_before_cleared]

end Storage

namespace GapBuffer

/--
The storage holds `before`, then as many zeros as the gap has bytes, and then
`after`, and it is not too large to exist.
-/
structure Layout
    (buffer : GapBuffer)
    (before after : Bytes) : Prop where
  storage_eq :
    buffer.storage.toList =
      before ++ List.replicate buffer.gap.size 0 ++ after
  start_eq : buffer.gap.start = before.length
  bounded : buffer.capacity < Capacity.storageLimit

namespace Layout

variable
    {buffer : GapBuffer}
    {before after : Bytes}

theorem stop_eq
    (layout : buffer.Layout before after) :
    buffer.gap.stop = before.length + buffer.gap.size := by
  rw [← Gap.start_add_size, layout.start_eq]

theorem capacity_eq
    (layout : buffer.Layout before after) :
    buffer.capacity =
      before.length + buffer.gap.size + after.length := by
  rw [capacity, ← Array.length_toList, layout.storage_eq]
  simp only [List.length_append, List.length_replicate]

theorem front_eq
    (layout : buffer.Layout before after) :
    buffer.front = before := by
  rw [front, layout.storage_eq, layout.start_eq, List.append_assoc,
    List.take_left]

theorem back_eq
    (layout : buffer.Layout before after) :
    buffer.back = after := by
  have sized :
      (before ++ List.replicate buffer.gap.size 0).length =
        buffer.gap.stop := by
    simp [layout.stop_eq]
  rw [back, layout.storage_eq, ← sized, List.drop_left]

theorem bytes_eq
    (layout : buffer.Layout before after) :
    buffer.bytes = before ++ after := by
  rw [bytes, layout.front_eq, layout.back_eq]

theorem length_eq
    (layout : buffer.Layout before after) :
    buffer.length = before.length + after.length := by
  rw [length, layout.capacity_eq]
  omega

theorem document_eq
    (layout : buffer.Layout before after) :
    buffer.document = ⟨before ++ after, before.length⟩ := by
  rw [document, layout.bytes_eq, layout.front_eq]

/-- The text is shorter than any storage may be. -/
theorem length_lt
    (layout : buffer.Layout before after) :
    before.length + after.length < Capacity.storageLimit := by
  have bounded := layout.bounded
  rw [layout.capacity_eq] at bounded
  omega

/-- A layout puts the gap inside the storage. -/
theorem settled_eq
    (layout : buffer.Layout before after) :
    buffer.settled = .ok buffer := by
  have inside : buffer.gap.stop ≤ buffer.capacity := by
    rw [layout.stop_eq, layout.capacity_eq]
    omega
  rw [settled, Checked.require_of inside]
  rfl

end Layout

/-- A layout is a view of the storage and the two ends of the gap. -/
theorem Layout.of_view
    {buffer : GapBuffer}
    {before after : Bytes}
    (unused : Nat)
    (view :
      buffer.storage.toList =
        before ++ List.replicate unused 0 ++ after)
    (startEq : buffer.gap.start = before.length)
    (stopEq : buffer.gap.stop = before.length + unused)
    (bounded : buffer.capacity < Capacity.storageLimit) :
    buffer.Layout before after := by
  have sizeEq : buffer.gap.size = unused := by
    rw [Gap.size, startEq, stopEq, Nat.add_sub_cancel_left]
  exact ⟨by rw [sizeEq, view], startEq, bounded⟩

/-- A new buffer has nothing around its gap. -/
theorem layout_withCapacity
    {capacity : Nat}
    (small : capacity < Capacity.storageLimit) :
    ∃ buffer : GapBuffer,
      withCapacity capacity = .ok buffer ∧
        buffer.capacity = capacity ∧ buffer.Layout [] [] := by
  refine ⟨_, if_pos small, ?_, ?_, rfl, ?_⟩
  · simp [GapBuffer.capacity, Storage.zeros]
  · simp [Gap.size]
  · simpa [GapBuffer.capacity, Storage.zeros] using small

/-- Moving the gap left takes bytes from before it to after it. -/
theorem layout_shiftLeft
    {buffer : GapBuffer}
    {kept moved after : Bytes}
    (layout : buffer.Layout (kept ++ moved) after) :
    ∃ shifted : GapBuffer,
      buffer.shiftLeft moved.length = .ok shifted ∧
        shifted.capacity = buffer.capacity ∧
        shifted.Layout kept (moved ++ after) := by
  by_cases empty : moved.length = 0
  · have none : moved = [] := List.eq_nil_of_length_eq_zero empty
    subst none
    exact ⟨buffer, rfl, rfl, by simpa using layout⟩
  · have startEq : buffer.gap.start = kept.length + moved.length := by
      rw [layout.start_eq, List.length_append]
    have stopEq :
        buffer.gap.stop = kept.length + moved.length + buffer.gap.size := by
      rw [layout.stop_eq, List.length_append]
    rcases Storage.slide_up layout.storage_eq with
      ⟨copied, cleared, copies, clears, view⟩
    have sourceEq :
        Checked.difference (kept.length + moved.length) moved.length =
          .ok kept.length := by
      rw [Checked.difference_of_le (Nat.le_add_left _ _),
        Nat.add_sub_cancel]
    have targetEq :
        Checked.difference buffer.gap.stop moved.length =
          .ok (kept.length + buffer.gap.size) := by
      rw [stopEq, Checked.difference_of_le (by omega)]
      congr 1
      omega
    rcases Gap.retreat_of_le
        (show moved.length ≤ buffer.gap.start by omega) with
      ⟨gap, retreats, gapStart, gapStop⟩
    have sameCapacity : cleared.size = buffer.capacity := by
      rw [← Array.length_toList, view, layout.capacity_eq]
      simp only [List.length_append, List.length_replicate]
      omega
    refine ⟨⟨cleared, gap⟩, ?_, sameCapacity, ?_⟩
    · rw [shiftLeft, if_neg empty]
      simp only [startEq, sourceEq, targetEq, copies, clears, retreats,
        Checked.ok_bind]
      rfl
    · apply Layout.of_view buffer.gap.size
      · simpa using view
      · simp only [gapStart, startEq]
        omega
      · simp only [gapStop, stopEq]
        omega
      · rw [capacity, sameCapacity]
        exact layout.bounded

/-- Moving the gap right takes bytes from after it to before it. -/
theorem layout_shiftRight
    {buffer : GapBuffer}
    {before moved kept : Bytes}
    (layout : buffer.Layout before (moved ++ kept)) :
    ∃ shifted : GapBuffer,
      buffer.shiftRight moved.length = .ok shifted ∧
        shifted.capacity = buffer.capacity ∧
        shifted.Layout (before ++ moved) kept := by
  by_cases empty : moved.length = 0
  · have none : moved = [] := List.eq_nil_of_length_eq_zero empty
    subst none
    exact ⟨buffer, rfl, rfl, by simpa using layout⟩
  · have parted :
        buffer.storage.toList =
          before ++ List.replicate buffer.gap.size 0 ++ moved ++ kept := by
      simpa using layout.storage_eq
    rcases Storage.slide_down parted with
      ⟨copied, cleared, copies, clears, view⟩
    have sameCapacity : cleared.size = buffer.capacity := by
      rw [← Array.length_toList, view, layout.capacity_eq]
      simp only [List.length_append, List.length_replicate]
      omega
    refine
      ⟨⟨cleared, buffer.gap.advance moved.length⟩, ?_, sameCapacity, ?_⟩
    · rw [shiftRight, if_neg empty]
      simp only [layout.start_eq, layout.stop_eq, copies, clears,
        Checked.ok_bind]
      rfl
    · apply Layout.of_view buffer.gap.size
      · exact view
      · simp [layout.start_eq]
      · simp only [Gap.stop_advance, layout.stop_eq, List.length_append]
        omega
      · rw [capacity, sameCapacity]
        exact layout.bounded

/-- Growing keeps both sides of the gap and adds zeros to it. -/
theorem layout_grow
    {buffer : GapBuffer}
    {before after : Bytes}
    {required : Nat}
    (layout : buffer.Layout before after)
    (larger : buffer.capacity < Capacity.powerOfTwoFrom required)
    (bounded :
      Capacity.powerOfTwoFrom required < Capacity.storageLimit) :
    ∃ grown : GapBuffer,
      buffer.grow required = .ok grown ∧
        grown.capacity = Capacity.powerOfTwoFrom required ∧
        grown.Layout before after := by
  have nextEq :
      Capacity.next required = .ok (Capacity.powerOfTwoFrom required) := by
    rw [Capacity.next, if_pos (Nat.lt_trans bounded (by decide))]
    rfl
  generalize Capacity.powerOfTwoFrom required = size at *
  generalize addedEq : size - buffer.capacity = added
  have capacityEq := layout.capacity_eq
  have stopEq := layout.stop_eq
  have extended :
      (buffer.storage.extend size).toList =
        (before ++ List.replicate buffer.gap.size 0) ++ after ++
          List.replicate added 0 ++ [] := by
    rw [Storage.toList_extend, layout.storage_eq, ← addedEq,
      List.append_nil]
    rfl
  rcases Storage.slide_up extended with
    ⟨copied, cleared, copies, clears, view⟩
  have oldStopEq :
      (before ++ List.replicate buffer.gap.size 0).length =
        buffer.gap.stop := by
    rw [List.length_append, List.length_replicate, stopEq]
  rw [oldStopEq] at copies clears
  have behindEq :
      Checked.difference buffer.capacity buffer.gap.stop =
        .ok after.length := by
    rw [Checked.difference_of_le (by omega)]
    congr 1
    omega
  have newStopEq :
      Checked.difference size after.length =
        .ok (buffer.gap.stop + added) := by
    rw [Checked.difference_of_le (by omega)]
    congr 1
    omega
  have oldEndEq :
      buffer.gap.stop + after.length = buffer.capacity := by
    omega
  rw [oldEndEq] at copies clears
  have ordered : buffer.gap.start ≤ buffer.gap.stop + added := by
    have := buffer.gap.ordered
    omega
  have grownCapacity : cleared.size = size := by
    rw [← Array.length_toList, view]
    simp only [List.length_append, List.length_replicate, List.length_nil]
    omega
  refine
    ⟨⟨cleared, ⟨buffer.gap.start, buffer.gap.stop + added, ordered⟩⟩,
      ?_, grownCapacity, ?_⟩
  · rw [grow, nextEq, Checked.ok_bind, if_neg (Nat.not_le.mpr larger),
      Checked.require_of bounded]
    simp only [behindEq, newStopEq, copies, clears, Checked.ok_bind,
      Gap.withStop, Gap.between_of_le ordered]
    rfl
  · apply Layout.of_view (buffer.gap.size + added)
    · simpa [List.replicate_append_replicate] using view
    · exact layout.start_eq
    · simp only [stopEq]
      omega
    · rw [capacity, grownCapacity]
      exact bounded

/-- Bytes that fit into the gap are put at its start. -/
theorem layout_overwrite
    {buffer : GapBuffer}
    {before after inserted : Bytes}
    (layout : buffer.Layout before after)
    (fits : inserted.length ≤ buffer.gap.size) :
    ∃ (storage : Storage) (gap : Gap),
      buffer.storage.overwrite buffer.gap.start inserted = .ok storage ∧
        buffer.gap.consume inserted.length = .ok gap ∧
        storage.size = buffer.capacity ∧
        GapBuffer.Layout ⟨storage, gap⟩ (before ++ inserted) after := by
  generalize leftEq : buffer.gap.size - inserted.length = left
  have zeros :
      List.replicate buffer.gap.size (0 : UInt8) =
        List.replicate inserted.length 0 ++ List.replicate left 0 := by
    rw [List.replicate_append_replicate]
    congr 1
    omega
  have view :
      buffer.storage.toList =
        before ++ List.replicate inserted.length 0 ++
          (List.replicate left 0 ++ after) := by
    rw [layout.storage_eq, zeros]
    simp only [List.append_assoc]
  rcases Storage.overwrite_between view
      (show inserted.length = _ from List.length_replicate.symm) with
    ⟨storage, overwrites, written⟩
  rcases Gap.consume_of_le fits with ⟨gap, consumes, gapStart, gapStop⟩
  have sameCapacity : storage.size = buffer.capacity := by
    rw [← Array.length_toList, written, layout.capacity_eq]
    simp only [List.length_append, List.length_replicate]
    omega
  refine
    ⟨storage, gap, layout.start_eq ▸ overwrites, consumes, sameCapacity, ?_⟩
  apply Layout.of_view left
  · simpa using written
  · simp only [gapStart, layout.start_eq, List.length_append]
  · simp only [gapStop, layout.stop_eq, List.length_append]
    omega
  · rw [capacity, sameCapacity]
    exact layout.bounded

end GapBuffer

end TerminalEditor
