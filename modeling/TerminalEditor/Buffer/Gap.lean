import TerminalEditor.Fault

/-!
# The gap of a storage

The unused part of a storage is one range of indices.  The bytes before its
start are the text before the cursor, the bytes from its stop onwards are the
text after the cursor.
-/

namespace TerminalEditor

/-- The unused range `start ..< stop` of a storage. -/
structure Gap where
  start : Nat
  stop : Nat
  ordered : start ≤ stop := by omega
  deriving DecidableEq, Repr

namespace Gap

/-- The gap between two indices, which must be in order. -/
def between
    (start stop : Nat) :
    Checked Gap :=
  if ordered : start ≤ stop then
    pure ⟨start, stop, ordered⟩
  else
    throw .gapInverted

/-- The number of unused bytes. -/
def size (gap : Gap) : Nat :=
  gap.stop - gap.start

/-- Whether there is no unused byte. -/
def isEmpty (gap : Gap) : Bool :=
  gap.start == gap.stop

/-- The gap left after `count` bytes were written at its start. -/
def consume
    (gap : Gap)
    (count : Nat) :
    Checked Gap :=
  if fits : count ≤ gap.size then
    pure
      { start := gap.start + count
        stop := gap.stop
        ordered := by
          have := gap.ordered
          unfold size at fits
          omega }
  else
    throw .gapOverrun

/-- Both ends of the gap moved left by `count`. -/
def retreat
    (gap : Gap)
    (count : Nat) :
    Checked Gap :=
  if count ≤ gap.start then
    pure
      { start := gap.start - count
        stop := gap.stop - count
        ordered := Nat.sub_le_sub_right gap.ordered count }
  else
    throw .negativeCount

/-- Both ends of the gap moved right by `count`. -/
def advance
    (gap : Gap)
    (count : Nat) :
    Gap :=
  { start := gap.start + count
    stop := gap.stop + count
    ordered := Nat.add_le_add_right gap.ordered count }

/-- The gap with the same start and another stop. -/
def withStop
    (gap : Gap)
    (stop : Nat) :
    Checked Gap :=
  between gap.start stop

@[simp]
theorem between_of_le
    {start stop : Nat}
    (ordered : start ≤ stop) :
    between start stop = .ok ⟨start, stop, ordered⟩ := by
  simp [between, ordered, pure, Except.pure]

theorem consume_of_le
    {gap : Gap}
    {count : Nat}
    (fits : count ≤ gap.size) :
    ∃ consumed : Gap,
      gap.consume count = .ok consumed ∧
        consumed.start = gap.start + count ∧ consumed.stop = gap.stop :=
  ⟨_, dif_pos fits, rfl, rfl⟩

theorem retreat_of_le
    {gap : Gap}
    {count : Nat}
    (fits : count ≤ gap.start) :
    ∃ retreated : Gap,
      gap.retreat count = .ok retreated ∧
        retreated.start = gap.start - count ∧
        retreated.stop = gap.stop - count :=
  ⟨_, if_pos fits, rfl, rfl⟩

@[simp]
theorem start_advance
    (gap : Gap)
    (count : Nat) :
    (gap.advance count).start = gap.start + count :=
  rfl

@[simp]
theorem stop_advance
    (gap : Gap)
    (count : Nat) :
    (gap.advance count).stop = gap.stop + count :=
  rfl

/-- Moving the gap keeps its size. -/
@[simp]
theorem size_advance
    (gap : Gap)
    (count : Nat) :
    (gap.advance count).size = gap.size := by
  simp only [size, advance]
  omega

theorem start_add_size
    (gap : Gap) :
    gap.start + gap.size = gap.stop :=
  Nat.add_sub_cancel' gap.ordered

end Gap

end TerminalEditor
