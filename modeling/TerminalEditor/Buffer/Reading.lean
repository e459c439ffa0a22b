import TerminalEditor.Buffer.Basic

/-!
# Reading a buffer from both ends

A reading walks over the text before and after the gap without joining them.
Bytes are taken from its start and from its end in any order, and it ends when
the two meet.
-/

namespace TerminalEditor

/-- The bytes of a text that are still to be read, in two segments. -/
structure Reading where
  segment : Bytes
  following : Bytes
  deriving DecidableEq, Repr

namespace Reading

/-- The bytes still to be read. -/
def remaining (reading : Reading) : Bytes :=
  reading.segment ++ reading.following

/-- The number of bytes still to be read. -/
def length (reading : Reading) : Nat :=
  reading.segment.length + reading.following.length

/-- Takes the first byte that is left. -/
def next
    (reading : Reading) :
    Option UInt8 × Reading :=
  match reading.segment with
  | byte :: rest => (some byte, ⟨rest, reading.following⟩)
  | [] => (reading.following.head?, ⟨[], reading.following.tail⟩)

/-- Takes the last byte that is left. -/
def nextBack
    (reading : Reading) :
    Option UInt8 × Reading :=
  match reading.following.getLast? with
  | some byte => (some byte, ⟨reading.segment, reading.following.dropLast⟩)
  | none => (reading.segment.getLast?, ⟨reading.segment.dropLast, []⟩)

@[simp]
theorem length_remaining
    (reading : Reading) :
    reading.remaining.length = reading.length := by
  simp [remaining, length]

/-- The first byte left is the head of the bytes still to be read. -/
@[simp]
theorem next_fst
    (reading : Reading) :
    reading.next.1 = reading.remaining.head? := by
  obtain ⟨segment, following⟩ := reading
  cases segment <;> rfl

@[simp]
theorem remaining_next_snd
    (reading : Reading) :
    reading.next.2.remaining = reading.remaining.tail := by
  obtain ⟨segment, following⟩ := reading
  cases segment <;> rfl

/-- The last byte left is the last of the bytes still to be read. -/
@[simp]
theorem nextBack_fst
    (reading : Reading) :
    reading.nextBack.1 = reading.remaining.getLast? := by
  rw [nextBack, remaining, List.getLast?_append]
  cases reading.following.getLast? <;> rfl

@[simp]
theorem remaining_nextBack_snd
    (reading : Reading) :
    reading.nextBack.2.remaining = reading.remaining.dropLast := by
  obtain ⟨segment, following⟩ := reading
  cases last : following.getLast? with
  | none =>
    rw [List.getLast?_eq_none_iff] at last
    simp [nextBack, remaining, last]
  | some byte =>
    have filled : following ≠ [] := by
      rintro rfl
      cases last
    simp [nextBack, remaining, last, List.dropLast_append_of_ne_nil filled]

end Reading

/-- A reading of the whole text. -/
def GapBuffer.reading (buffer : GapBuffer) : Reading :=
  ⟨buffer.front, buffer.back⟩

@[simp]
theorem GapBuffer.remaining_reading
    (buffer : GapBuffer) :
    buffer.reading.remaining = buffer.bytes :=
  rfl

end TerminalEditor
