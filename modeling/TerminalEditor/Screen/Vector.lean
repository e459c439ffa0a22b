/-!
# Places and sizes on a plane

A vector has a column `x` and a row `y`.  Places in a text are counted without
bound, the cells of a terminal in 16 bits; a place too far out for a terminal
is moved to its farthest cell.
-/

namespace TerminalEditor

/-- A column and a row. -/
structure Vec2 (α : Type) where
  x : α
  y : α
  deriving DecidableEq, Repr

/-- A place or a size on a terminal. -/
abbrev ScreenVector : Type :=
  Vec2 UInt16

/-- The 16-bit number nearest to a count. -/
def saturate (count : Nat) : UInt16 :=
  UInt16.ofNat (min count 0xffff)

/-- The successor of a 16-bit number, or the number itself at the top. -/
def saturatingSucc (number : UInt16) : UInt16 :=
  saturate (number.toNat + 1)

namespace Vec2

/-- The smaller column and the smaller row. -/
def componentMin
    {α : Type} [Min α]
    (left right : Vec2 α) :
    Vec2 α :=
  ⟨min left.x right.x, min left.y right.y⟩

/-- The cell nearest to a place. -/
def toScreen (place : Vec2 Nat) : ScreenVector :=
  ⟨saturate place.x, saturate place.y⟩

end Vec2

/-- The first cell, and the size without cells. -/
def ScreenVector.zero : ScreenVector :=
  ⟨0, 0⟩

/-- The number of rows for text when the last row is for the status. -/
def textRows (size : ScreenVector) : Nat :=
  size.y.toNat - 1

@[simp]
theorem toNat_saturate
    (count : Nat) :
    (saturate count).toNat = min count 0xffff := by
  rw [saturate, UInt16.toNat_ofNat']
  omega

end TerminalEditor
