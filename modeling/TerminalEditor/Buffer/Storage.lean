import TerminalEditor.Bytes
import TerminalEditor.Fault

/-!
# Byte storage with checked bounds

A storage is a fixed run of bytes.  It is changed by overwriting a range in
place, by copying a range onto another one of the same storage, which may
overlap it, and by clearing a range to zero.  Each operation faults when a
range does not lie inside the storage.
-/

namespace TerminalEditor

/-- The bytes that hold a text and its gap. -/
abbrev Storage : Type :=
  Array UInt8

namespace Storage

/-- A storage of zero bytes. -/
def zeros (size : Nat) : Storage :=
  Array.replicate size 0

/-- The bytes at the indices `start ..< stop`. -/
def slice
    (storage : Storage)
    (start stop : Nat) :
    Checked Bytes :=
  if start ≤ stop ∧ stop ≤ storage.size then
    pure (storage.extract start stop).toList
  else
    throw .outOfBounds

/-- The storage with `bytes` written over the ones from `start` on. -/
def overwrite
    (storage : Storage)
    (start : Nat)
    (bytes : Bytes) :
    Checked Storage :=
  if start + bytes.length ≤ storage.size then
    pure
      (storage.extract 0 start ++ bytes.toArray ++
        storage.extract (start + bytes.length) storage.size)
  else
    throw .outOfBounds

/--
The storage with the bytes `start ..< stop` written over the ones from
`target` on.  The bytes are read before any is written, so the two ranges may
overlap.
-/
def copyWithin
    (storage : Storage)
    (start stop target : Nat) :
    Checked Storage := do
  storage.overwrite target (← storage.slice start stop)

/-- The storage with the bytes `start ..< stop` set to zero. -/
def clear
    (storage : Storage)
    (start stop : Nat) :
    Checked Storage := do
  storage.overwrite start
    (List.replicate (← Checked.difference stop start) 0)

/-- The storage followed by zero bytes up to `size`. -/
def extend
    (storage : Storage)
    (size : Nat) :
    Storage :=
  storage ++ Array.replicate (size - storage.size) 0

@[simp]
theorem toList_zeros
    (size : Nat) :
    (zeros size).toList = List.replicate size 0 := by
  simp [zeros]

theorem slice_of_le
    {storage : Storage}
    {start stop : Nat}
    (ordered : start ≤ stop)
    (inside : stop ≤ storage.size) :
    storage.slice start stop =
      .ok ((storage.toList.drop start).take (stop - start)) := by
  simp [slice, ordered, inside, pure, Except.pure,
    List.extract_eq_take_drop]

/-- Overwriting inside the bounds keeps both sides of the written range. -/
theorem overwrite_of_le
    {storage : Storage}
    {start : Nat}
    {bytes : Bytes}
    (inside : start + bytes.length ≤ storage.size) :
    ∃ written : Storage,
      storage.overwrite start bytes = .ok written ∧
        written.toList =
          storage.toList.take start ++ bytes ++
            storage.toList.drop (start + bytes.length) := by
  refine ⟨_, by simp only [overwrite, inside, if_true]; rfl, ?_⟩
  simp [List.extract_eq_take_drop, List.take_of_length_le]

end Storage

end TerminalEditor
