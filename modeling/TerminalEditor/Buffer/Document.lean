import TerminalEditor.Buffer.Motion
import TerminalEditor.Text.Fields

/-!
# Documents

A document is a text with a cursor between two of its bytes, without a storage
that holds it.  Each operation is said by what it does to the text and the
cursor: an insertion puts bytes in at the cursor, and a motion goes to the place
nearest to the one that is asked for.  A gap buffer stands for the document made
of its text and of the number of bytes in front of its gap.
-/

namespace TerminalEditor

/-- A text, and the number of its bytes before the cursor. -/
structure Document where
  bytes : Bytes
  cursor : Nat
  deriving DecidableEq, Repr

namespace Document

/-- The text before the cursor. -/
def before (document : Document) : Bytes :=
  document.bytes.take document.cursor

/-- The text after the cursor. -/
def after (document : Document) : Bytes :=
  document.bytes.drop document.cursor

/-- The rows of the text, without the newlines between them. -/
def rows (document : Document) : List Bytes :=
  Text.fields newline document.bytes

/-- The number of the last row. -/
def lastRow (document : Document) : Nat :=
  document.rows.length - 1

/-- The number of bytes of a row. -/
def rowLength
    (document : Document)
    (row : Nat) :
    Nat :=
  (document.rows[row]?.getD []).length

/-- The number of bytes before a row. -/
def rowStart
    (document : Document)
    (row : Nat) :
    Nat :=
  ((document.rows.take row).flatMap (· ++ [newline])).length

/-- The cursor's row and column. -/
def position (document : Document) : Position :=
  let rowsBefore := Text.fields newline document.before
  ⟨rowsBefore.length - 1, (rowsBefore.getLast?.getD []).length⟩

/-- The number of bytes between the cursor and the end of its row. -/
def rowRemaining (document : Document) : Nat :=
  document.rowLength document.position.row - document.position.column

/-- The number from zero to `bound` that is nearest to `value`. -/
def clamp
    (bound : Nat)
    (value : Int) :
    Nat :=
  min bound value.toNat

/-- The document with `inserted` at the cursor and the cursor after it. -/
def insert
    (document : Document)
    (inserted : Bytes) :
    Document :=
  { bytes := document.before ++ inserted ++ document.after
    cursor := document.cursor + inserted.length }

/-- The cursor moved by `distance` bytes, as far as there is text. -/
def shift
    (document : Document)
    (distance : Int) :
    Document :=
  { document with
    cursor := clamp document.bytes.length (document.cursor + distance) }

/--
The cursor moved to a position: to the last row if the row does not exist, and
to the end of the row if that is shorter than the column.
-/
def moveTo
    (document : Document)
    (target : Position) :
    Document :=
  let row := min target.row document.lastRow
  { document with
    cursor :=
      document.rowStart row + min target.column (document.rowLength row) }

/-- The cursor moved by rows, keeping its column where it can. -/
def shiftRows
    (document : Document)
    (rows : Int) :
    Document :=
  let position := document.position
  document.moveTo
    ⟨clamp document.lastRow (position.row + rows), position.column⟩

/-- The document with its cursor moved by one motion. -/
def navigate (document : Document) : Motion → Document
  | .left => document.shift (-1)
  | .right => document.shift 1
  | .up => document.shiftRows (-1)
  | .down => document.shiftRows 1
  | .lineStart => document.moveTo ⟨document.position.row, 0⟩
  | .lineEnd =>
    document.moveTo
      ⟨document.position.row,
        document.rowLength document.position.row⟩
  | .pageUp rows => document.shiftRows (-rows)
  | .pageDown rows => document.shiftRows rows
  | .to target => document.moveTo target

theorem clamp_le
    (bound : Nat)
    (value : Int) :
    clamp bound value ≤ bound :=
  Nat.min_le_left bound value.toNat

/-- No motion changes the text. -/
@[simp]
theorem bytes_navigate
    (document : Document)
    (motion : Motion) :
    (document.navigate motion).bytes = document.bytes := by
  cases motion <;> rfl

section Inserting

variable
    {document : Document}
    (inside : document.cursor ≤ document.bytes.length)
    (inserted : Bytes)

include inside

theorem length_before_append :
    (document.before ++ inserted).length =
      document.cursor + inserted.length := by
  rw [List.length_append, before, List.length_take,
    Nat.min_eq_left inside]

/-- What is inserted comes behind the text before the cursor. -/
theorem before_insert :
    (document.insert inserted).before = document.before ++ inserted := by
  rw [before, insert,
    List.take_left' (length_before_append inside inserted)]

/-- What is inserted leaves the text after the cursor. -/
theorem after_insert :
    (document.insert inserted).after = document.after := by
  rw [after, insert,
    List.drop_left' (length_before_append inside inserted)]

end Inserting

/-- Inserting nothing changes nothing. -/
theorem insert_nil (document : Document) :
    document.insert [] = document := by
  rw [insert, List.append_nil, before, after, List.take_append_drop]
  rfl

end Document

/-- The document that a buffer stands for. -/
def GapBuffer.document (buffer : GapBuffer) : Document :=
  ⟨buffer.bytes, buffer.front.length⟩

namespace GapBuffer

/-- The text before the cursor is the front of the buffer. -/
@[simp]
theorem before_document
    (buffer : GapBuffer) :
    buffer.document.before = buffer.front := by
  simp [Document.before, document, bytes]

/-- The text after the cursor is the back of the buffer. -/
@[simp]
theorem after_document
    (buffer : GapBuffer) :
    buffer.document.after = buffer.back := by
  simp [Document.after, document, bytes]

end GapBuffer

end TerminalEditor
