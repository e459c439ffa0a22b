import TerminalEditor.Buffer.InPlace
import TerminalEditor.Proofs.Buffer.Refinement

/-!
# The integrity of a storage

Whatever a buffer is used for, its storage consists of the text before the
cursor, zeros for the gap, and the text after the cursor, so it is known from
the document and its capacity alone.  No check of a use fails but the one for a
capacity that exists, and an insertion that it stops has not begun to change
the buffer.
-/

namespace TerminalEditor

namespace Change

variable
    {buffer next : GapBuffer}

theorem bind_of_ok
    {α β : Type}
    {first : Change α}
    {value : α}
    (ran : first buffer = .ok value next)
    (continuation : α → Change β) :
    (first >>= continuation) buffer = continuation value next := by
  simp only [bind, EStateM.bind, ran]

theorem bind_of_error
    {α β : Type}
    {first : Change α}
    {fault : Fault}
    (stopped : first buffer = .error fault next)
    (continuation : α → Change β) :
    (first >>= continuation) buffer = .error fault next := by
  simp only [bind, EStateM.bind, stopped]

/-- Looking at the buffer leaves it as it is. -/
theorem get_bind
    {α : Type}
    (continuation : GapBuffer → Change α) :
    (get >>= continuation) buffer = continuation buffer buffer :=
  rfl

theorem check_of_ok
    {α : Type}
    {checked : Checked α}
    {value : α}
    (passed : checked = .ok value) :
    check checked buffer = .ok value buffer := by
  rw [passed]
  rfl

theorem check_of_error
    {α : Type}
    {checked : Checked α}
    {fault : Fault}
    (failed : checked = .error fault) :
    check checked buffer = .error fault buffer := by
  rw [failed]
  rfl

theorem onStorage_of_ok
    {operation : Storage → Checked Storage}
    {storage : Storage}
    (passed : operation buffer.storage = .ok storage) :
    onStorage operation buffer = .ok () { buffer with storage } := by
  rw [onStorage, get_bind, bind_of_ok (check_of_ok passed)]
  rfl

theorem onGap_of_ok
    {operation : Gap → Checked Gap}
    {gap : Gap}
    (passed : operation buffer.gap = .ok gap) :
    onGap operation buffer = .ok () { buffer with gap } := by
  rw [onGap, get_bind, bind_of_ok (check_of_ok passed)]
  rfl

/-- A buffer that can grow grows in place to the same buffer. -/
theorem grow_of_ok
    {required : Nat}
    (grown : buffer.grow required = .ok next) :
    grow required buffer = .ok () next := by
  rcases Checked.exists_of_bind_eq_ok grown with ⟨larger, nextEq, grown⟩
  rw [grow, get_bind, bind_of_ok (check_of_ok nextEq)]
  split at grown
  · next enough =>
    cases grown
    rw [if_pos enough]
    rfl
  · next short =>
    rcases Checked.exists_of_bind_eq_ok grown with ⟨_, bounded, grown⟩
    rcases Checked.exists_of_bind_eq_ok grown with ⟨behind, behindEq, grown⟩
    rcases Checked.exists_of_bind_eq_ok grown with
      ⟨newStop, newStopEq, grown⟩
    rcases Checked.exists_of_bind_eq_ok grown with ⟨moved, copies, grown⟩
    rcases Checked.exists_of_bind_eq_ok grown with ⟨cleared, clears, grown⟩
    rcases Checked.exists_of_bind_eq_ok grown with ⟨gap, widens, grown⟩
    cases grown
    have extended :
        onStorage (fun storage => pure (storage.extend larger)) buffer =
          .ok ()
            { buffer with storage := buffer.storage.extend larger } :=
      onStorage_of_ok rfl
    rw [if_neg short, bind_of_ok (check_of_ok bounded),
      bind_of_ok (check_of_ok behindEq),
      bind_of_ok (check_of_ok newStopEq), bind_of_ok extended,
      bind_of_ok (onStorage_of_ok copies),
      bind_of_ok (onStorage_of_ok clears), onGap_of_ok widens]

theorem makeRoom_of_ok
    {count : Nat}
    (made : buffer.makeRoom count = .ok next) :
    makeRoom count buffer = .ok () next := by
  rw [makeRoom, get_bind]
  rw [GapBuffer.makeRoom] at made
  split at made
  · next crowded =>
    rcases Checked.exists_of_bind_eq_ok made with ⟨_, counted, grown⟩
    rw [if_pos crowded, bind_of_ok (check_of_ok counted)]
    exact grow_of_ok grown
  · next room =>
    cases made
    rw [if_neg room]
    rfl

/-- An insertion that succeeds leaves the same buffer in place. -/
theorem insert_of_ok
    {inserted : Bytes}
    (put : buffer.insert inserted = .ok next) :
    insert inserted buffer = .ok () next := by
  rw [insert]
  rw [GapBuffer.insert] at put
  split at put
  · next empty =>
    cases put
    rw [if_pos empty]
    rfl
  · next filled =>
    rcases Checked.exists_of_bind_eq_ok put with ⟨roomy, made, put⟩
    rcases Checked.exists_of_bind_eq_ok put with ⟨storage, written, put⟩
    rcases Checked.exists_of_bind_eq_ok put with ⟨gap, narrowed, put⟩
    rcases Checked.exists_of_bind_eq_ok put with ⟨_, settles, same⟩
    cases same
    rw [if_neg filled, bind_of_ok (makeRoom_of_ok made), get_bind,
      bind_of_ok (onStorage_of_ok written),
      bind_of_ok (onGap_of_ok narrowed), get_bind]
    exact check_of_ok settles

/-- An insertion that would have to grow too far stops before any change. -/
theorem makeRoom_of_tooLarge
    {count : Nat}
    (bounded : buffer.capacity < Capacity.storageLimit)
    (crowded : buffer.gap.size ≤ count)
    (tooLarge :
      Capacity.storageLimit ≤
        Capacity.powerOfTwoFrom (buffer.capacity + count)) :
    makeRoom count buffer = .error .capacityOverflow buffer := by
  have larger :
      ¬ Capacity.powerOfTwoFrom (buffer.capacity + count) ≤
        buffer.capacity :=
    Nat.not_le.mpr (Nat.lt_of_lt_of_le bounded tooLarge)
  rw [makeRoom, get_bind, if_pos crowded]
  by_cases counted : buffer.capacity + count < Capacity.countLimit
  · rw [bind_of_ok (check_of_ok (Checked.require_of counted _)), grow,
      get_bind]
    by_cases exists_next :
        Capacity.powerOfTwoFrom (buffer.capacity + count) <
          Capacity.countLimit
    · have nextEq :
          Capacity.next (buffer.capacity + count) =
            .ok (Capacity.powerOfTwoFrom (buffer.capacity + count)) :=
        if_pos exists_next
      have refused :=
        Checked.require_of_not (Nat.not_lt.mpr tooLarge) .capacityOverflow
      rw [bind_of_ok (check_of_ok nextEq), if_neg larger,
        bind_of_error (check_of_error refused)]
    · have noNext :
          Capacity.next (buffer.capacity + count) =
            .error .capacityOverflow :=
        if_neg exists_next
      rw [bind_of_error (check_of_error noNext)]
  · have uncounted := Checked.require_of_not counted .capacityOverflow
    rw [bind_of_error (check_of_error uncounted)]

theorem insert_of_tooLarge
    {inserted : Bytes}
    (bounded : buffer.capacity < Capacity.storageLimit)
    (filled : inserted ≠ [])
    (crowded : buffer.gap.size ≤ inserted.length)
    (tooLarge :
      Capacity.storageLimit ≤
        Capacity.powerOfTwoFrom (buffer.capacity + inserted.length)) :
    insert inserted buffer = .error .capacityOverflow buffer := by
  have notEmpty : ¬ inserted.isEmpty = true := by
    rw [List.isEmpty_iff]
    exact filled
  rw [insert, if_neg notEmpty,
    bind_of_error (makeRoom_of_tooLarge bounded crowded tooLarge)]

end Change

namespace TextUse

/-- A use of a buffer in place. -/
def inPlace : TextUse → Change (Option Int)
  | .insert bytes => do
    Change.insert bytes
    pure none
  | .insertText text => do
    Change.insert text.toUTF8.data.toList
    pure none
  | .insertChar char => do
    Change.insert (String.utf8EncodeChar char)
    pure none
  | move => Change.replace move.onBuffer

/-- An insertion has to grow, and no storage is large enough. -/
structure Overflows
    (use : TextUse)
    (buffer : GapBuffer) : Prop where
  filled : use.inserted ≠ []
  crowded : buffer.gap.size ≤ use.inserted.length
  tooLarge :
    Capacity.storageLimit ≤
      Capacity.powerOfTwoFrom (buffer.capacity + use.inserted.length)

variable
    {buffer next : GapBuffer}
    {document : Document}
    {told : Option Int}

/-- Only a use that overflows is refused. -/
theorem overflows_iff
    (use : TextUse)
    (holds : buffer.Holds document) :
    use.Overflows buffer ↔
      buffer.occupancy.insert? use.inserted.length = none := by
  rw [Occupancy.insert?_eq_none_iff, holds.layout.free_eq]
  constructor
  · rintro ⟨filled, crowded, tooLarge⟩
    exact ⟨by simpa using filled, crowded, tooLarge⟩
  · rintro ⟨positive, crowded, tooLarge⟩
    exact ⟨by simpa using positive, crowded, tooLarge⟩

/-- A use fails exactly if it overflows. -/
theorem onBuffer_eq_error_iff
    (use : TextUse)
    (holds : buffer.Holds document)
    (fault : Fault) :
    use.onBuffer buffer = .error fault ↔
      fault = .capacityOverflow ∧ use.Overflows buffer := by
  rw [use.overflows_iff holds]
  cases room : buffer.occupancy.insert? use.inserted.length with
  | none =>
    rw [use.onBuffer_of_crowded holds room]
    constructor
    · intro same
      cases same
      exact ⟨rfl, rfl⟩
    · rintro ⟨rfl, -⟩
      rfl
  | some admitted =>
    rcases use.onBuffer_of_room holds room with ⟨result, answered, -, -⟩
    rw [answered]
    constructor
    · nofun
    · rintro ⟨-, impossible⟩
      cases impossible

private theorem insert_inPlace
    {inserted : Bytes}
    (put :
      (do return (none, ← buffer.insert inserted) :
          Checked (Option Int × GapBuffer)) =
        .ok (told, next)) :
    (do
        Change.insert inserted
        pure none : Change (Option Int)) buffer =
      .ok told next := by
  rcases Checked.exists_of_bind_eq_ok put with ⟨result, inserts, same⟩
  cases same
  rw [Change.bind_of_ok (Change.insert_of_ok inserts)]
  rfl

/-- A use that succeeds makes the same buffer in place. -/
theorem inPlace_of_ok
    (use : TextUse)
    (answered : use.onBuffer buffer = .ok (told, next)) :
    use.inPlace buffer = .ok told next := by
  cases use with
  | insert bytes => exact insert_inPlace answered
  | insertText text => exact insert_inPlace answered
  | insertChar char => exact insert_inPlace answered
  | _ => simp only [inPlace, Change.replace, answered]

/-- A use that overflows leaves the buffer as it was. -/
theorem inPlace_of_overflows
    (use : TextUse)
    (holds : buffer.Holds document)
    (overflows : use.Overflows buffer) :
    use.inPlace buffer = .error .capacityOverflow buffer := by
  rcases overflows with ⟨filled, crowded, tooLarge⟩
  have stops :
      Change.insert use.inserted buffer =
        .error .capacityOverflow buffer :=
    Change.insert_of_tooLarge holds.layout.bounded filled crowded tooLarge
  cases use with
  | insert bytes => exact Change.bind_of_error stops _
  | insertText text => exact Change.bind_of_error stops _
  | insertChar char => exact Change.bind_of_error stops _
  | _ => exact absurd rfl filled

/-- A new buffer of half the largest storage or more cannot be filled. -/
theorem overflows_of_half
    {capacity : Nat}
    {empty : GapBuffer}
    (small : capacity < Capacity.storageLimit)
    (half : Capacity.storageLimit ≤ capacity + capacity)
    (created : GapBuffer.withCapacity capacity = .ok empty) :
    (insert (List.replicate capacity 0)).Overflows empty := by
  rcases GapBuffer.holds_withCapacity small with
    ⟨buffer, same, occupancyEq, holds⟩
  rw [created] at same
  cases same
  have limit : 0 < Capacity.storageLimit := by decide
  rw [overflows_iff _ holds, occupancyEq,
    Occupancy.insert?_eq_none_iff, inserted, List.length_replicate]
  refine ⟨by omega, Nat.sub_le _ _, ?_⟩
  exact Nat.le_trans half (Capacity.le_powerOfTwoFrom _)

/-- One use leaves a buffer that holds a document. -/
theorem exists_holds_of_onBuffer
    (use : TextUse)
    (holds : buffer.Holds document)
    (answered : use.onBuffer buffer = .ok (told, next)) :
    ∃ after : Document, next.Holds after := by
  cases room : buffer.occupancy.insert? use.inserted.length with
  | none =>
    rw [use.onBuffer_of_crowded holds room] at answered
    cases answered
  | some admitted =>
    rcases use.onBuffer_of_room holds room with
      ⟨result, reached, -, resultHolds⟩
    rw [reached] at answered
    cases answered
    exact ⟨_, resultHolds⟩

end TextUse

namespace GapBuffer

/-- The buffer after some uses, one after the other. -/
def useAll
    (buffer : GapBuffer) :
    List TextUse → Checked GapBuffer
  | [] => pure buffer
  | use :: later => do
    let (_, next) ← use.onBuffer buffer
    next.useAll later

/-- The gap lies in the storage, and there are zeros between the texts. -/
structure InOrder (buffer : GapBuffer) : Prop where
  start_le_stop : buffer.gap.start ≤ buffer.gap.stop
  stop_le_size : buffer.gap.stop ≤ buffer.storage.size
  storage_eq :
    buffer.storage.toList =
      buffer.front ++ List.replicate buffer.gap.size 0 ++ buffer.back

variable
    {buffer other next : GapBuffer}
    {document : Document}

theorem Holds.inOrder
    (holds : buffer.Holds document) :
    buffer.InOrder := by
  refine ⟨buffer.gap.ordered, ?_, ?_⟩
  · have sized : buffer.storage.size = buffer.capacity := rfl
    rw [sized, holds.layout.stop_eq, holds.layout.capacity_eq]
    omega
  · rw [holds.front_eq, holds.back_eq]
    exact holds.layout.storage_eq

/-- A storage in order is laid out around its own text. -/
theorem InOrder.length_front
    (inOrder : buffer.InOrder) :
    buffer.front.length = buffer.gap.start := by
  have inside :=
    Nat.le_trans inOrder.start_le_stop inOrder.stop_le_size
  rw [front, List.length_take, Array.length_toList, Nat.min_eq_left inside]

theorem InOrder.capacity_eq
    (inOrder : buffer.InOrder) :
    buffer.capacity =
      buffer.front.length + buffer.gap.size + buffer.back.length := by
  rw [capacity, ← Array.length_toList, inOrder.storage_eq]
  simp only [List.length_append, List.length_replicate]

/-- The text, the cursor and the capacity tell the whole storage. -/
theorem InOrder.eq_of_document
    (inOrder : buffer.InOrder)
    (otherInOrder : other.InOrder)
    (sameDocument : other.document = buffer.document)
    (sameCapacity : other.capacity = buffer.capacity) :
    other = buffer := by
  have sameFront : other.front = buffer.front := by
    rw [← before_document, sameDocument, before_document]
  have sameBack : other.back = buffer.back := by
    rw [← after_document, sameDocument, after_document]
  have sameStart : other.gap.start = buffer.gap.start := by
    rw [← otherInOrder.length_front, sameFront, inOrder.length_front]
  have sameSize : other.gap.size = buffer.gap.size := by
    have counted := inOrder.capacity_eq
    have otherCounted := otherInOrder.capacity_eq
    rw [sameFront, sameBack, sameCapacity] at otherCounted
    omega
  have sameStop : other.gap.stop = buffer.gap.stop := by
    rw [← Gap.start_add_size, sameStart, sameSize, Gap.start_add_size]
  have sameStorage : other.storage = buffer.storage := by
    apply Array.toList_inj.mp
    rw [otherInOrder.storage_eq, sameFront, sameSize, sameBack,
      inOrder.storage_eq]
  cases other with
  | mk otherStorage otherGap =>
    cases buffer with
    | mk storage gap =>
      cases otherGap
      cases gap
      cases sameStorage
      cases sameStart
      cases sameStop
      rfl

/-- Moving the cursor back restores the whole storage. -/
theorem Holds.shift_back
    (holds : buffer.Holds document)
    (distance : Int) :
    ∃ (moved : Int) (shifted : GapBuffer),
      buffer.shift distance = .ok (moved, shifted) ∧
        shifted.shift (-moved) = .ok (-moved, buffer) := by
  rcases holds_shift holds distance with
    ⟨shifted, shifts, capacityEq, shiftedHolds⟩
  refine ⟨_, shifted, shifts, ?_⟩
  generalize movedEq :
    ((document.shift distance).cursor - document.cursor : Int) = moved
  have returned :
      (document.shift distance).shift (-moved) = document := by
    have inside := holds.inside
    have cursorEq :
        Document.clamp document.bytes.length
            ((document.shift distance).cursor + -moved) =
          document.cursor := by
      rw [Document.clamp]
      omega
    rw [Document.shift]
    exact congrArg (Document.mk document.bytes) cursorEq
  rcases holds_shift shiftedHolds (-moved) with
    ⟨again, shiftsBack, againCapacity, againHolds⟩
  rw [returned] at shiftsBack againHolds
  have same : again = buffer :=
    holds.inOrder.eq_of_document againHolds.inOrder
      (againHolds.document_eq.trans holds.document_eq.symm)
      (againCapacity.trans capacityEq)
  rw [shiftsBack, same]
  congr 2
  omega

/-- Uses one after the other leave a buffer that holds a document. -/
theorem Holds.exists_of_useAll
    (holds : buffer.Holds document)
    (uses : List TextUse)
    (used : buffer.useAll uses = .ok next) :
    ∃ after : Document, next.Holds after := by
  induction uses generalizing buffer document with
  | nil =>
    cases used
    exact ⟨document, holds⟩
  | cons use later ih =>
    rcases Checked.exists_of_bind_eq_ok used with
      ⟨⟨told, middle⟩, answered, rest⟩
    rcases use.exists_holds_of_onBuffer holds answered with
      ⟨after, middleHolds⟩
    exact ih middleHolds rest

end GapBuffer

/--
After any uses of a new buffer its gap lies inside its storage, which holds the
text before the cursor, zeros, and the text after it, and is the only such
storage of its capacity; so moving the cursor back restores it.  The next use
fails only if it is an insertion that has to grow and finds no storage that may
exist, and then the buffer is still as it was.
-/
theorem integrity_of_used_buffer
    (capacity : Nat)
    (small : capacity < Capacity.storageLimit) :
    ∃ empty : GapBuffer,
      GapBuffer.withCapacity capacity = .ok empty ∧
        ∀ (uses : List TextUse) (buffer : GapBuffer),
          empty.useAll uses = .ok buffer →
            buffer.InOrder ∧
            (∀ other : GapBuffer,
              other.InOrder →
              other.document = buffer.document →
              other.capacity = buffer.capacity →
                other = buffer) ∧
            (∀ distance : Int,
              ∃ (moved : Int) (shifted : GapBuffer),
                buffer.shift distance = .ok (moved, shifted) ∧
                  shifted.shift (-moved) = .ok (-moved, buffer)) ∧
            (∀ (use : TextUse) (fault : Fault),
              use.onBuffer buffer = .error fault ↔
                fault = .capacityOverflow ∧ use.Overflows buffer) ∧
            (∀ (use : TextUse) (told : Option Int) (next : GapBuffer),
              use.onBuffer buffer = .ok (told, next) →
                use.inPlace buffer = .ok told next) ∧
            (∀ use : TextUse,
              use.Overflows buffer →
                use.inPlace buffer = .error .capacityOverflow buffer) := by
  rcases GapBuffer.holds_withCapacity small with
    ⟨empty, created, -, emptyHolds⟩
  refine ⟨empty, created, ?_⟩
  intro uses buffer used
  rcases emptyHolds.exists_of_useAll uses used with ⟨document, holds⟩
  refine
    ⟨holds.inOrder, ?_, holds.shift_back, ?_, ?_, ?_⟩
  · intro other otherInOrder sameDocument sameCapacity
    exact
      holds.inOrder.eq_of_document otherInOrder sameDocument sameCapacity
  · intro use fault
    exact use.onBuffer_eq_error_iff holds fault
  · intro use told next answered
    exact use.inPlace_of_ok answered
  · intro use overflows
    exact use.inPlace_of_overflows holds overflows

/--
A gap in the midst of a text, and an empty buffer of half the storage that may
exist, which cannot be filled.
-/
theorem integrity_of_split_and_huge :
    (∃ empty buffer shifted : GapBuffer,
      1 < Capacity.storageLimit ∧
        GapBuffer.withCapacity 1 = .ok empty ∧
        empty.useAll [.insert [97, 98, 10, 99], .shift (-2)] = .ok buffer ∧
        buffer.storage = #[97, 98, 0, 0, 0, 0, 10, 99] ∧
        buffer.InOrder ∧
        buffer.shift (-7) = .ok (-2, shifted) ∧
        shifted.shift 2 = .ok (2, buffer) ∧
        (TextUse.insert [1, 2, 3]).inPlace buffer =
          .ok none
            ⟨#[97, 98, 1, 2, 3, 0, 10, 99], { start := 5, stop := 6 }⟩) ∧
    ∃ empty : GapBuffer,
      1 <<< 62 < Capacity.storageLimit ∧
        GapBuffer.withCapacity (1 <<< 62) = .ok empty ∧
        (TextUse.insert (List.replicate (1 <<< 62) 0)).Overflows empty ∧
        (TextUse.insert (List.replicate (1 <<< 62) 0)).inPlace empty =
          .error .capacityOverflow empty := by
  constructor
  · rcases integrity_of_used_buffer 1 (by decide) with
      ⟨empty, created, integrity⟩
    cases created
    have used :
        GapBuffer.useAll ⟨Storage.zeros 1, { start := 0, stop := 1 }⟩
            [.insert [97, 98, 10, 99], .shift (-2)] =
          .ok
            ⟨#[97, 98, 0, 0, 0, 0, 10, 99], { start := 2, stop := 6 }⟩ := by
      cbv
    rcases integrity _ _ used with
      ⟨inOrder, -, shiftsBack, -, agrees, -⟩
    have shiftsLeft :
        GapBuffer.shift
            ⟨#[97, 98, 0, 0, 0, 0, 10, 99], { start := 2, stop := 6 }⟩
            (-7) =
          .ok
            (-2,
              ⟨#[0, 0, 0, 0, 97, 98, 10, 99],
                { start := 0, stop := 4 }⟩) := by
      cbv
    rcases shiftsBack (-7) with ⟨moved, shifted, shifts, returns⟩
    rw [shiftsLeft] at shifts
    cases shifts
    have inserts :
        (TextUse.insert [1, 2, 3]).onBuffer
            ⟨#[97, 98, 0, 0, 0, 0, 10, 99], { start := 2, stop := 6 }⟩ =
          .ok
            (none,
              ⟨#[97, 98, 1, 2, 3, 0, 10, 99],
                { start := 5, stop := 6 }⟩) := by
      cbv
    exact
      ⟨_, _, _, by decide, rfl, used, rfl, inOrder, shiftsLeft, returns,
        agrees _ _ _ inserts⟩
  · have small : 1 <<< 62 < Capacity.storageLimit := by decide
    rcases integrity_of_used_buffer (1 <<< 62) small with
      ⟨empty, created, integrity⟩
    have overflows :=
      TextUse.overflows_of_half small (by decide) created
    rcases integrity [] empty rfl with ⟨-, -, -, -, -, stops⟩
    exact ⟨empty, small, created, overflows, stops _ overflows⟩

end TerminalEditor
