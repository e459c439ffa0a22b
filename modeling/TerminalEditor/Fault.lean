/-!
# Faults of the checked storage

Every operation on the text storage checks the bounds it relies on, and a
broken check is a fault.  A computation that may fault lives in `Checked`.
Of all faults only `capacityOverflow` can be met by a caller; the others
stand for promises that the storage keeps towards itself.
-/

namespace TerminalEditor

/-- A check on the text storage that did not hold. -/
inductive Fault
  /-- No admissible capacity is large enough. -/
  | capacityOverflow
  /-- A gap was asked to start past its end. -/
  | gapInverted
  /-- More bytes were written into a gap than it holds. -/
  | gapOverrun
  /-- A range reached past the end of the storage. -/
  | outOfBounds
  /-- A count was taken from a smaller one. -/
  | negativeCount
  /-- The least distance was to be turned round. -/
  | distanceOverflow
  /-- A distance was to be kept between bounds that are not in order. -/
  | boundsInverted
  deriving DecidableEq, Repr

/-- The text that reports a fault. -/
def Fault.message : Fault → String
  | .capacityOverflow => "capacity overflow"
  | .gapInverted => "gap start past gap end"
  | .gapOverrun => "consumed more than the gap"
  | .outOfBounds => "gap out of bounds"
  | .negativeCount => "attempt to subtract with overflow"
  | .distanceOverflow => "attempt to negate with overflow"
  | .boundsInverted => "assertion failed: min <= max"

/-- A computation that ends with a value or with a fault. -/
abbrev Checked (α : Type) : Type :=
  Except Fault α

namespace Checked

@[simp]
theorem pure_eq_ok
    {α : Type}
    (value : α) :
    (pure value : Checked α) = .ok value :=
  rfl

@[simp]
theorem ok_bind
    {α β : Type}
    (value : α)
    (continuation : α → Checked β) :
    (Except.ok value >>= continuation) = continuation value :=
  rfl

@[simp]
theorem error_bind
    {α β : Type}
    (fault : Fault)
    (continuation : α → Checked β) :
    ((Except.error fault : Checked α) >>= continuation) = .error fault :=
  rfl

/-- A sequence that ends with a value has passed each of its parts. -/
theorem exists_of_bind_eq_ok
    {α β : Type}
    {first : Checked α}
    {continuation : α → Checked β}
    {result : β}
    (passed : (first >>= continuation) = .ok result) :
    ∃ value : α, first = .ok value ∧ continuation value = .ok result := by
  cases first with
  | error fault => cases passed
  | ok value => exact ⟨value, rfl, passed⟩

/-- The difference of two counts, where the first must not be the smaller. -/
def difference
    (larger smaller : Nat) :
    Checked Nat :=
  if smaller ≤ larger then
    pure (larger - smaller)
  else
    throw .negativeCount

@[simp]
theorem difference_of_le
    {larger smaller : Nat}
    (ordered : smaller ≤ larger) :
    difference larger smaller = .ok (larger - smaller) := by
  simp [difference, ordered, pure, Except.pure]

/-- Passes on exactly when the condition holds. -/
def require
    (condition : Prop) [Decidable condition]
    (fault : Fault) :
    Checked Unit :=
  if condition then
    pure ()
  else
    throw fault

@[simp]
theorem require_of
    {condition : Prop} [Decidable condition]
    (holds : condition)
    (fault : Fault) :
    require condition fault = .ok () := by
  simp [require, holds, pure, Except.pure]

@[simp]
theorem require_of_not
    {condition : Prop} [Decidable condition]
    (fails : ¬condition)
    (fault : Fault) :
    require condition fault = .error fault := by
  rw [require, if_neg fails]
  rfl

end Checked

end TerminalEditor
