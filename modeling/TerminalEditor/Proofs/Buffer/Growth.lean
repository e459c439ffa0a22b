import TerminalEditor.Proofs.Buffer.Integrity

/-!
# How a capacity grows

A capacity changes only when an insertion would leave no free byte.  It then
becomes the least power of two that is enough, so from the second growth on it
is at least doubled, it never comes to four times the length of the text, and no
growth leaves fewer free bytes than there were.  All of this is known from the
initial capacity and the numbers of bytes that are inserted.
-/

namespace TerminalEditor

/-! ## The least power of two that is enough -/

namespace Capacity

/-- The least power of two that is at least `required`. -/
structure IsLeast (required capacity : Nat) : Prop where
  power : ∃ exponent : Nat, capacity = 1 <<< exponent
  enough : required ≤ capacity
  least :
    ∀ exponent : Nat, required ≤ 1 <<< exponent → capacity ≤ 1 <<< exponent

variable {required capacity : Nat}

theorem isLeast_powerOfTwoFrom (required : Nat) :
    IsLeast required (powerOfTwoFrom required) := by
  constructor
  · unfold powerOfTwoFrom
    split
    · exact ⟨0, rfl⟩
    · exact ⟨_, rfl⟩
  · exact le_powerOfTwoFrom required
  · intro exponent holds
    exact powerOfTwoFrom_le holds

theorem shiftLeft_succ (exponent : Nat) :
    1 <<< (exponent + 1) = 2 * 1 <<< exponent := by
  rw [Nat.one_shiftLeft, Nat.one_shiftLeft, Nat.pow_succ, Nat.mul_comm]

/-- Half of the capacity would not be enough. -/
theorem IsLeast.lt_double
    (least : IsLeast required capacity)
    (positive : 0 < required) :
    capacity < 2 * required := by
  rcases least.power with ⟨exponent, rfl⟩
  cases exponent with
  | zero =>
    have one : 1 <<< 0 = 1 := rfl
    omega
  | succ smaller =>
    have half : 1 <<< smaller < required := by
      apply Nat.lt_of_not_le
      intro enough
      have noLarger := least.least smaller enough
      have positive : 0 < 1 <<< smaller := by
        rw [Nat.one_shiftLeft]
        exact Nat.two_pow_pos smaller
      rw [shiftLeft_succ] at noLarger
      omega
    rw [shiftLeft_succ]
    exact Nat.mul_lt_mul_of_pos_left half (by decide)

/-- A power of two that has to grow is at least doubled. -/
theorem IsLeast.double_le
    {exponent : Nat}
    (least : IsLeast required capacity)
    (grows : 1 <<< exponent < required) :
    2 * 1 <<< exponent ≤ capacity := by
  rcases least.power with ⟨larger, rfl⟩
  have enough := Nat.lt_of_lt_of_le grows least.enough
  rw [Nat.one_shiftLeft, Nat.one_shiftLeft] at enough
  have above : exponent < larger :=
    (Nat.pow_lt_pow_iff_right (by decide)).mp enough
  rw [← shiftLeft_succ, Nat.one_shiftLeft, Nat.one_shiftLeft]
  exact Nat.pow_le_pow_right (by decide) above

/-- A storage exists for everything up to half the largest size. -/
theorem powerOfTwoFrom_lt_storageLimit_iff :
    powerOfTwoFrom required < storageLimit ↔ required ≤ 1 <<< 62 := by
  constructor
  · intro bounded
    have least := isLeast_powerOfTwoFrom required
    rcases least.power with ⟨exponent, same⟩
    rw [same, storageLimit, Nat.one_shiftLeft, Nat.one_shiftLeft,
      Nat.pow_lt_pow_iff_right (by decide)] at bounded
    refine Nat.le_trans least.enough ?_
    rw [same, Nat.one_shiftLeft, Nat.one_shiftLeft]
    exact Nat.pow_le_pow_right (by decide) (Nat.le_of_lt_succ bounded)
  · intro half
    exact Nat.lt_of_le_of_lt (powerOfTwoFrom_le half) (by decide)

end Capacity

/-! ## Storages that have grown -/

namespace Occupancy

variable
    {occupancy next : Occupancy}
    {count initial : Nat}

/-- What an insertion into a crowded storage makes of it. -/
structure Grows
    (occupancy next : Occupancy)
    (count : Nat) : Prop where
  least : Capacity.IsLeast (occupancy.capacity + count) next.capacity
  length_eq : next.length = occupancy.length + count
  positive : count ≠ 0
  crowded : occupancy.capacity - occupancy.length ≤ count

/-- An insertion that is admitted finds room, or the storage grows. -/
theorem cases_of_insert?
    (admitted : occupancy.insert? count = some next) :
    (count = 0 ∨ count < occupancy.capacity - occupancy.length) ∧
        next = { occupancy with length := occupancy.length + count } ∨
      occupancy.Grows next count := by
  by_cases room : count = 0 ∨ count < occupancy.capacity - occupancy.length
  · rw [insert?_of_room room] at admitted
    cases admitted
    exact Or.inl ⟨room, rfl⟩
  · rw [not_or, Nat.not_lt] at room
    rw [insert?_of_crowded room.1 room.2] at admitted
    split at admitted
    · cases admitted
      exact
        Or.inr
          ⟨Capacity.isLeast_powerOfTwoFrom _, rfl, room.1, room.2⟩
    · cases admitted

namespace Grows

theorem capacity_lt
    (grows : occupancy.Grows next count) :
    occupancy.capacity < next.capacity := by
  have enough := grows.least.enough
  have positive := grows.positive
  omega

/-- A growth leaves at least as many free bytes as there were. -/
theorem free_le
    (grows : occupancy.Grows next count) :
    occupancy.capacity - occupancy.length ≤
      next.capacity - next.length := by
  have enough := grows.least.enough
  rw [grows.length_eq]
  omega

/-- Less than four times the bytes in use are taken by a growth. -/
theorem capacity_lt_four_mul
    (grows : occupancy.Grows next count) :
    next.capacity < 4 * next.length := by
  -- The free bytes are no more than those that come in, so what is required is
  -- at most twice the bytes in use, and the power of two less than twice that.
  have crowded := grows.crowded
  have positive := grows.positive
  have required : 0 < occupancy.capacity + count := by omega
  have double := grows.least.lt_double required
  rw [grows.length_eq]
  omega

end Grows

/--
An occupancy that started with no byte in use.  Its capacity is still the
initial one, or it is a power of two that is not too large for the bytes in use.
-/
structure GrownFrom
    (occupancy : Occupancy)
    (initial : Nat) : Prop where
  grown :
    occupancy.capacity = initial ∨
      (∃ exponent : Nat, occupancy.capacity = 1 <<< exponent) ∧
        occupancy.capacity < 4 * occupancy.length
  free : 0 < initial → occupancy.length < occupancy.capacity

theorem grownFrom_empty (initial : Nat) :
    GrownFrom ⟨initial, 0⟩ initial :=
  ⟨Or.inl rfl, id⟩

/-- From the second growth on the capacity is at least doubled. -/
theorem Grows.double_le
    (grows : occupancy.Grows next count)
    (grown : occupancy.GrownFrom initial)
    (changed : occupancy.capacity ≠ initial) :
    2 * occupancy.capacity ≤ next.capacity := by
  rcases grown.grown with same | ⟨⟨exponent, power⟩, -⟩
  · exact absurd same changed
  · have required : 1 <<< exponent < occupancy.capacity + count := by
      have positive := grows.positive
      omega
    rw [power]
    exact grows.least.double_le required

/-- No insertion makes a storage smaller. -/
theorem capacity_le_of_insert?
    (admitted : occupancy.insert? count = some next) :
    occupancy.capacity ≤ next.capacity := by
  rcases cases_of_insert? admitted with ⟨-, rfl⟩ | grows
  · exact Nat.le_refl _
  · exact Nat.le_of_lt grows.capacity_lt

/-- Every insertion that is admitted keeps to the law of growth. -/
theorem GrownFrom.insert
    (grown : occupancy.GrownFrom initial)
    (admitted : occupancy.insert? count = some next) :
    next.GrownFrom initial := by
  have free := grown.free
  rcases cases_of_insert? admitted with ⟨room, rfl⟩ | grows
  · constructor
    · rcases grown.grown with same | ⟨power, small⟩
      · exact Or.inl same
      · exact Or.inr ⟨power, by simp only; omega⟩
    · intro positive
      have smaller := free positive
      simp only
      omega
  · have freeLe := grows.free_le
    constructor
    · exact Or.inr ⟨grows.least.power, grows.capacity_lt_four_mul⟩
    · intro positive
      have smaller := free positive
      omega

/-- Insertions one after the other keep to the law of growth. -/
theorem GrownFrom.insertAll
    {counts : List Nat}
    (grown : occupancy.GrownFrom initial)
    (admitted : occupancy.insertAll? counts = some next) :
    next.GrownFrom initial := by
  induction counts generalizing occupancy with
  | nil =>
    cases admitted
    exact grown
  | cons count later ih =>
    rcases Option.bind_eq_some_iff.mp admitted with ⟨middle, first, rest⟩
    exact ih (grown.insert first) rest

theorem capacity_le_of_insertAll?
    {counts : List Nat}
    (admitted : occupancy.insertAll? counts = some next) :
    occupancy.capacity ≤ next.capacity := by
  induction counts generalizing occupancy with
  | nil =>
    cases admitted
    exact Nat.le_refl _
  | cons count later ih =>
    rcases Option.bind_eq_some_iff.mp admitted with ⟨middle, first, rest⟩
    exact Nat.le_trans (capacity_le_of_insert? first) (ih rest)

/-- Insertions of no byte need not be counted. -/
theorem insertAll?_filter
    (occupancy : Occupancy)
    (counts : List Nat) :
    occupancy.insertAll? (counts.filter (· ≠ 0)) =
      occupancy.insertAll? counts := by
  induction counts generalizing occupancy with
  | nil => rfl
  | cons count later ih =>
    by_cases empty : count = 0
    · rw [List.filter_cons_of_neg (by simpa using empty), insertAll?,
        insert?_of_room (Or.inl empty), empty]
      exact ih occupancy
    · rw [List.filter_cons_of_pos (by simpa using empty), insertAll?,
        insertAll?]
      congr 1
      funext middle
      exact ih middle

end Occupancy

/-! ## Runs of a buffer -/

namespace TextUse

/-- The numbers of bytes that some uses put in, where they put any in. -/
def counts (uses : List TextUse) : List Nat :=
  (uses.map (·.inserted.length)).filter (· ≠ 0)

end TextUse

namespace GapBuffer

variable
    {buffer after : GapBuffer}
    {document : Document}
    {last : Occupancy}

/-- Uses that have room are all made, and take the room that is counted. -/
theorem Holds.useAll_of_room
    (holds : buffer.Holds document)
    (uses : List TextUse)
    (admitted :
      buffer.occupancy.insertAll? (TextUse.counts uses) = some last) :
    ∃ after : GapBuffer,
      buffer.useAll uses = .ok after ∧ after.occupancy = last := by
  rw [TextUse.counts, Occupancy.insertAll?_filter] at admitted
  induction uses generalizing buffer document with
  | nil =>
    cases admitted
    exact ⟨buffer, rfl, rfl⟩
  | cons use later ih =>
    rcases Option.bind_eq_some_iff.mp admitted with ⟨middle, room, rest⟩
    rcases use.onBuffer_of_room holds room with
      ⟨next, answered, rfl, nextHolds⟩
    rcases ih nextHolds rest with ⟨after, used, occupancyEq⟩
    refine ⟨after, ?_, occupancyEq⟩
    rw [useAll, answered]
    exact used

/-- Uses that were all made have taken the room that is counted. -/
theorem Holds.insertAll?_of_useAll
    (holds : buffer.Holds document)
    (uses : List TextUse)
    (used : buffer.useAll uses = .ok after) :
    buffer.occupancy.insertAll? (TextUse.counts uses) =
      some after.occupancy := by
  rw [TextUse.counts, Occupancy.insertAll?_filter]
  induction uses generalizing buffer document with
  | nil =>
    cases used
    rfl
  | cons use later ih =>
    rcases Checked.exists_of_bind_eq_ok used with
      ⟨⟨told, middle⟩, answered, rest⟩
    rw [List.map_cons, Occupancy.insertAll?]
    cases room : buffer.occupancy.insert? use.inserted.length with
    | none =>
      rw [use.onBuffer_of_crowded holds room] at answered
      cases answered
    | some admitted =>
      rcases use.onBuffer_of_room holds room with
        ⟨next, reached, rfl, nextHolds⟩
      rw [reached] at answered
      cases answered
      exact ih nextHolds rest

/-- One more use of a buffer, by the room that there is for it. -/
theorem Holds.onBuffer_cases
    (holds : buffer.Holds document)
    (use : TextUse) :
    let count := use.inserted.length
    if count = 0 ∨ count < buffer.gap.size then
      ∃ (told : Option Int) (next : GapBuffer),
        use.onBuffer buffer = .ok (told, next) ∧
          next.capacity = buffer.capacity
    else if buffer.capacity + count ≤ 1 <<< 62 then
      ∃ (told : Option Int) (next : GapBuffer),
        use.onBuffer buffer = .ok (told, next) ∧
          buffer.occupancy.Grows next.occupancy count ∧
          buffer.gap.size ≤ next.gap.size
    else
      use.onBuffer buffer = .error .capacityOverflow := by
  intro count
  have freeEq := holds.layout.free_eq
  split
  · next room =>
    rw [← freeEq] at room
    rcases use.onBuffer_of_room holds (Occupancy.insert?_of_room room) with
      ⟨next, answered, occupancyEq, -⟩
    exact ⟨_, next, answered, congrArg Occupancy.capacity occupancyEq⟩
  · next crowded =>
    rw [← freeEq, not_or, Nat.not_lt] at crowded
    have room := Occupancy.insert?_of_crowded crowded.1 crowded.2
    by_cases bounded : buffer.capacity + count ≤ 1 <<< 62
    · rw [capacity_occupancy,
        if_pos (Capacity.powerOfTwoFrom_lt_storageLimit_iff.mpr bounded)]
        at room
      rcases use.onBuffer_of_room holds room with
        ⟨next, answered, occupancyEq, nextHolds⟩
      have grows : buffer.occupancy.Grows next.occupancy count := by
        rw [occupancyEq]
        exact
          ⟨Capacity.isLeast_powerOfTwoFrom _, rfl, crowded.1, crowded.2⟩
      have free := grows.free_le
      rw [freeEq, nextHolds.layout.free_eq] at free
      rw [if_pos bounded]
      exact ⟨_, next, answered, grows, free⟩
    · rw [capacity_occupancy,
        if_neg (mt Capacity.powerOfTwoFrom_lt_storageLimit_iff.mp bounded)]
        at room
      rw [if_neg bounded]
      exact use.onBuffer_of_crowded holds room

end GapBuffer

/--
A buffer that has been used changes its capacity only when an insertion would
use up its gap.  The capacity then becomes the least power of two that is enough,
which is larger, and at least doubled once the capacity is not the initial one
any more; the gap does not become shorter.  An insertion fails exactly if it has
to grow to more than half the largest storage.  So the capacity is the initial
one or a power of two, it never shrinks, it does not come to four times the
length of the text, and a gap that was not empty at first is never empty.  The
capacity depends on the initial one and on the numbers of bytes that were
inserted alone.
-/
theorem capacity_of_used_buffer
    (initial : Nat)
    (uses : List TextUse)
    {buffer : GapBuffer}
    (reached :
      (do (← GapBuffer.withCapacity initial).useAll uses) = .ok buffer) :
    (∀ use : TextUse,
      let count := use.inserted.length
      if count = 0 ∨ count < buffer.gap.size then
        ∃ (told : Option Int) (next : GapBuffer),
          use.onBuffer buffer = .ok (told, next) ∧
            next.capacity = buffer.capacity
      else if buffer.capacity + count ≤ 1 <<< 62 then
        ∃ (told : Option Int) (next : GapBuffer),
          use.onBuffer buffer = .ok (told, next) ∧
            Capacity.IsLeast (buffer.capacity + count) next.capacity ∧
            buffer.capacity < next.capacity ∧
            (buffer.capacity ≠ initial →
              2 * buffer.capacity ≤ next.capacity) ∧
            buffer.gap.size ≤ next.gap.size
      else
        use.onBuffer buffer = .error .capacityOverflow) ∧
      (buffer.capacity = initial ∨
        (∃ exponent : Nat, buffer.capacity = 1 <<< exponent) ∧
          buffer.capacity < 4 * buffer.length) ∧
      (∀ (later : List TextUse) (last : GapBuffer),
        buffer.useAll later = .ok last →
          buffer.capacity ≤ last.capacity) ∧
      (1 ≤ initial → 0 < buffer.gap.size) ∧
      ∀ others : List TextUse,
        TextUse.counts others = TextUse.counts uses →
          ∃ other : GapBuffer,
            (do (← GapBuffer.withCapacity initial).useAll others) =
                .ok other ∧
              other.capacity = buffer.capacity := by
  rcases Checked.exists_of_bind_eq_ok reached with
    ⟨empty, created, used⟩
  rcases GapBuffer.holds_of_withCapacity created with
    ⟨occupancyEq, emptyHolds⟩
  rcases emptyHolds.exists_of_useAll uses used with ⟨document, holds⟩
  have admitted := emptyHolds.insertAll?_of_useAll uses used
  have grown : buffer.occupancy.GrownFrom initial :=
    (Occupancy.grownFrom_empty initial).insertAll (occupancyEq ▸ admitted)
  refine ⟨?_, grown.grown, ?_, ?_, ?_⟩
  · intro use count
    have law := holds.onBuffer_cases use
    split
    · next room => rwa [if_pos room] at law
    · next crowded =>
      rw [if_neg crowded] at law
      split
      · next bounded =>
        rw [if_pos bounded] at law
        rcases law with ⟨told, next, answered, grows, free⟩
        exact
          ⟨told, next, answered, grows.least, grows.capacity_lt,
            grows.double_le grown, free⟩
      · next unbounded => rwa [if_neg unbounded] at law
  · intro later last usedOn
    exact
      Occupancy.capacity_le_of_insertAll?
        (holds.insertAll?_of_useAll later usedOn)
  · intro positive
    have free := grown.free positive
    rw [← holds.layout.free_eq]
    omega
  · intro others same
    rw [← same] at admitted
    rcases emptyHolds.useAll_of_room others admitted with
      ⟨other, usedSo, sameOccupancy⟩
    refine ⟨other, ?_, congrArg Occupancy.capacity sameOccupancy⟩
    rw [created]
    exact usedSo

/-- A gap that is filled exactly, twice, the second time in the midst of a text. -/
theorem capacity_of_filled_buffer :
    let uses : List TextUse := [.insert [97, 98, 99], .shift (-2)]
    let others : List TextUse :=
      [.moveTo ⟨3, 1⟩, .insertText "", .insertText "é\n"]
    let buffer : GapBuffer :=
      ⟨#[97, 0, 0, 0, 0, 0, 98, 99], { start := 1, stop := 6 }⟩
    (do (← GapBuffer.withCapacity 3).useAll uses) = .ok buffer ∧
      buffer.capacity < 4 * buffer.length ∧
      0 < buffer.gap.size ∧
      (∃ (told : Option Int) (next : GapBuffer),
        (TextUse.insert [1, 2, 3, 4, 5]).onBuffer buffer =
            .ok (told, next) ∧
          Capacity.IsLeast 13 next.capacity ∧
          16 ≤ next.capacity) ∧
      ∃ other : GapBuffer,
        (do (← GapBuffer.withCapacity 3).useAll others) = .ok other ∧
          other.capacity = 8 := by
  intro uses others buffer
  have reached :
      (do (← GapBuffer.withCapacity 3).useAll uses) = .ok buffer := by
    cbv
  rcases capacity_of_used_buffer 3 uses reached with
    ⟨law, grown, -, free, depends⟩
  rcases grown with same | ⟨-, small⟩
  · exact absurd same (by decide)
  have growth := law (.insert [1, 2, 3, 4, 5])
  rcases growth with ⟨told, next, answered, least, -, doubled, -⟩
  exact
    ⟨reached, small, free (by decide),
      ⟨told, next, answered, least, doubled (by decide)⟩,
      depends others (by decide)⟩

end TerminalEditor
