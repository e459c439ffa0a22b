import TerminalEditor.Fault

/-!
# Capacities

A storage that has to grow takes the least power of two that holds what is
required of it.  Sizes are counted in 64 bits, and a storage that exists has
fewer than `1 <<< 63` bytes.
-/

namespace TerminalEditor.Capacity

/-- No storage has this many bytes or more. -/
def storageLimit : Nat :=
  1 <<< 63

/-- No count reaches this number. -/
def countLimit : Nat :=
  1 <<< 64

/-- The capacity of a buffer for which none was asked. -/
def standard : Nat :=
  10

/-- The least power of two that is at least `required`. -/
def powerOfTwoFrom (required : Nat) : Nat :=
  if required ≤ 1 then
    1
  else
    1 <<< ((required - 1).log2 + 1)

theorem le_powerOfTwoFrom
    (required : Nat) :
    required ≤ powerOfTwoFrom required := by
  unfold powerOfTwoFrom
  split
  · assumption
  · rw [Nat.one_shiftLeft]
    have := Nat.lt_log2_self (n := required - 1)
    omega

theorem powerOfTwoFrom_le
    {required exponent : Nat}
    (holds : required ≤ 1 <<< exponent) :
    powerOfTwoFrom required ≤ 1 <<< exponent := by
  unfold powerOfTwoFrom
  simp only [Nat.one_shiftLeft] at holds ⊢
  split
  · exact Nat.one_le_two_pow
  · apply Nat.pow_le_pow_right (by decide)
    have : (required - 1).log2 < exponent := by
      rw [Nat.log2_lt (by omega)]
      omega
    omega

/-- The capacity to grow to when `required` bytes are needed. -/
def next (required : Nat) : Checked Nat :=
  if powerOfTwoFrom required < countLimit then
    pure (powerOfTwoFrom required)
  else
    throw .capacityOverflow

end TerminalEditor.Capacity
