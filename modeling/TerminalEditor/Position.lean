/-!
# Positions in a text

A position names a place between two bytes of a text by its row and its
column.  Positions are ordered as reading meets them: by row, and within a
row by column.
-/

namespace TerminalEditor

/--
A place in a text: `row` counts the newlines before it, `column` the bytes
since the last of them.
-/
structure Position where
  row : Nat
  column : Nat
  deriving DecidableEq, Repr, Inhabited

namespace Position

/-- The start of every text. -/
def origin : Position :=
  ⟨0, 0⟩

/-- Compares by row first and by column within one row. -/
def compare
    (left right : Position) :
    Ordering :=
  (Ord.compare left.row right.row).then
    (Ord.compare left.column right.column)

instance : Ord Position where
  compare := Position.compare

instance : LT Position :=
  ⟨fun left right => left.row < right.row ∨
    left.row = right.row ∧ left.column < right.column⟩

instance : LE Position :=
  ⟨fun left right => left.row < right.row ∨
    left.row = right.row ∧ left.column ≤ right.column⟩

instance (left right : Position) : Decidable (left < right) :=
  inferInstanceAs
    (Decidable (left.row < right.row ∨
      left.row = right.row ∧ left.column < right.column))

instance (left right : Position) : Decidable (left ≤ right) :=
  inferInstanceAs
    (Decidable (left.row < right.row ∨
      left.row = right.row ∧ left.column ≤ right.column))

theorem lt_iff
    {left right : Position} :
    left < right ↔
      left.row < right.row ∨
        left.row = right.row ∧ left.column < right.column :=
  Iff.rfl

theorem le_iff
    {left right : Position} :
    left ≤ right ↔
      left.row < right.row ∨
        left.row = right.row ∧ left.column ≤ right.column :=
  Iff.rfl

/-- The greater of two positions. -/
def greater
    (left right : Position) :
    Position :=
  if left ≤ right then right else left

/-- Row and column in brackets, as `(3,12)`. -/
def render (position : Position) : String :=
  s!"({position.row},{position.column})"

end Position

end TerminalEditor
