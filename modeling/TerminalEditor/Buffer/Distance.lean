import TerminalEditor.Buffer.Capacity

/-!
# Distances

A distance is a signed number of 64 bits, and a count an unsigned one.  A count
is read as a distance by its bits, or is cut at the greatest distance.  The
least distance cannot be turned round, and a distance can be kept between two
bounds only if they are in order.
-/

namespace TerminalEditor.Distance

/-- The least distance. -/
def least : Int :=
  -9223372036854775808

/-- The greatest distance. -/
def greatest : Int :=
  9223372036854775807

/-- The count as a distance, cut at the greatest one. -/
def ofCount (count : Nat) : Int :=
  min count greatest

/-- The distance with the bits of a count, less than zero past the greatest. -/
def wrapped (count : Nat) : Int :=
  if count < Capacity.storageLimit then
    count
  else
    count - Capacity.countLimit

/-- The same way in the other direction. -/
def reversed (distance : Int) : Checked Int :=
  if distance = least then
    throw .distanceOverflow
  else
    pure (-distance)

/-- The distance between two bounds that is nearest to another. -/
def within
    (low high distance : Int) :
    Checked Int := do
  Checked.require (low ≤ high) .boundsInverted
  pure (max low (min high distance))

/-- The distance nearest to a number. -/
def cut (number : Int) : Int :=
  max least (min greatest number)

/-- The way from one count to another, cut at both bounds. -/
def between
    (source target : Nat) :
    Checked Int :=
  if source ≤ target then
    pure (ofCount (target - source))
  else if source - target ≤ greatest.toNat then
    reversed (source - target : Nat)
  else
    pure least

/-- A count that a storage can have is the distance it is read as. -/
theorem wrapped_of_lt
    {count : Nat}
    (small : count < Capacity.storageLimit) :
    wrapped count = count :=
  if_pos small

/-- No count is as far below zero as the least distance. -/
theorem reversed_of_nonneg
    {distance : Int}
    (nonneg : 0 ≤ distance) :
    reversed distance = .ok (-distance) := by
  have proper : distance ≠ least := by
    rw [least]
    omega
  rw [reversed, if_neg proper]
  rfl

theorem within_of_le
    {low high : Int}
    (ordered : low ≤ high)
    (distance : Int) :
    within low high distance = .ok (max low (min high distance)) := by
  rw [within, Checked.require_of ordered]
  rfl

/-- The way from one count to another is their difference, cut. -/
theorem between_eq
    (source target : Nat) :
    between source target = .ok (cut (target - source)) := by
  have bound : greatest.toNat = 9223372036854775807 := rfl
  rw [between, bound, cut]
  split
  · rw [ofCount, least, greatest, Checked.pure_eq_ok]
    congr 1
    omega
  · split
    · rw [reversed_of_nonneg (by omega), least, greatest]
      congr 1
      omega
    · rw [least, greatest, Checked.pure_eq_ok]
      congr 1
      omega

end TerminalEditor.Distance
