import TerminalEditor.Buffer.Shown
import TerminalEditor.Proofs.Editor.Window

/-!
# Bytes, characters and columns

The text of an editor that is reached has one byte and one column for each of its
characters.  So the cursor's row and column, which count bytes, count rows and
characters as well, and what is drawn is printable apart from the escape characters
of the control sequences.
-/

namespace TerminalEditor.Editor

variable
    {editor : Editor}
    {document : Document}

/-- Each character of the text is one byte of it. -/
theorem Edits.text_eq
    (edits : editor.Edits document) :
    editor.buffer.text.toList = document.bytes.map Utf8.charOf := by
  rw [GapBuffer.text, String.toList_ofList, edits.holds.bytes_eq,
    Utf8.lossy_of_ascii _ edits.typed.isAscii]

theorem Edits.replacement_notMem_text
    (edits : editor.Edits document) :
    Utf8.replacement ∉ editor.buffer.text.toList := by
  intro member
  rw [edits.text_eq] at member
  rcases List.mem_map.mp member with ⟨byte, inside, same⟩
  have number := congrArg Char.toNat same
  have small := edits.typed.isAscii byte inside
  rw [Utf8.toNat_charOf] at number
  have large : Utf8.replacement.toNat = 0xfffd := rfl
  omega

theorem Edits.length_text
    (edits : editor.Edits document) :
    editor.buffer.text.length = editor.buffer.length := by
  rw [← String.length_toList, edits.text_eq, List.length_map,
    edits.holds.length_eq]

/-- The cursor divides a row of the text at its place. -/
theorem Edits.exists_rows
    (edits : editor.Edits document) :
    ∃ (above : List (List Char)) (left right : List Char)
      (below : List (List Char)),
      Text.fields '\n' editor.buffer.text.toList =
          above ++ (left ++ right) :: below ∧
        Utf8.lossy editor.buffer.front =
          Text.closed '\n' above ++ left ∧
        above.length = editor.buffer.row ∧
        left.length = editor.buffer.column := by
  rcases document.exists_cut with ⟨upper, left, right, lower, cut⟩
  refine
    ⟨upper.map (·.map Utf8.charOf), left.map Utf8.charOf,
      right.map Utf8.charOf, lower.map (·.map Utf8.charOf), ?_, ?_, ?_, ?_⟩
  · have rows : document.rows = upper ++ (left ++ right) :: lower := by
      rw [Document.rows, ← cut.fields_eq, Document.before,
        Document.after, List.take_append_drop]
    rw [GapBuffer.text, String.toList_ofList, edits.fields_eq, rows,
      List.map_append, List.map_cons, List.map_append]
  · have ascii : ∀ byte ∈ document.before, byte.toNat ≤ 0x7f :=
      fun byte member =>
        edits.typed.isAscii byte (List.mem_of_mem_take member)
    rw [edits.holds.front_eq, Utf8.lossy_of_ascii _ ascii, cut.before_eq,
      List.map_append, Text.map_closed]
    rfl
  · rw [List.length_map, GapBuffer.row_of_cut edits.holds cut]
  · rw [List.length_map, GapBuffer.column_of_cut edits.holds cut]

/-- What is written of a frame is printable apart from escape characters. -/
theorem Edits.byte_of_frame
    (edits : editor.Edits document)
    (size : ScreenVector) :
    ∀ byte ∈ Command.bytesOf (editor.frame size),
      byte = 0x1b ∨ 0x20 ≤ byte.toNat ∧ byte.toNat ≤ 0x7e := by
  intro byte member
  have sent := Command.isSentText_encodeAll (edits.isPrintable_frame size)
  rcases Utf8.exists_of_mem_encode sent.isAscii member with
    ⟨char, among, number⟩
  rcases sent char among with rfl | printable
  · exact Or.inl (UInt8.toNat_inj.mp number)
  · rw [number]
    exact Or.inr printable

/--
The text of an editor consists of printable ASCII characters and newlines, whatever
it has been used for.  So no part of it is malformed and it has as many characters as
bytes; the rows before the cursor's row are as many as the cursor's row tells,
and the characters before the cursor in its row as many as its column tells; and a
frame of any size is written with printable characters and the escape characters
of its control sequences.
-/
theorem bytes_are_columns
    (capacity : Nat)
    (uses : List EditorUse)
    {editor : Editor}
    (reached : (do (← withCapacity capacity).useAll uses) = .ok editor) :
    (∀ byte ∈ editor.buffer.bytes,
        byte = 0x0a ∨ 0x20 ≤ byte.toNat ∧ byte.toNat ≤ 0x7e) ∧
      Utf8.replacement ∉ editor.buffer.text.toList ∧
      editor.buffer.text.length = editor.buffer.length ∧
      (∃ (above : List (List Char)) (left right : List Char)
        (below : List (List Char)),
        Text.fields '\n' editor.buffer.text.toList =
            above ++ (left ++ right) :: below ∧
          Utf8.lossy editor.buffer.front =
            Text.closed '\n' above ++ left ∧
          above.length = editor.buffer.row ∧
          left.length = editor.buffer.column) ∧
      ∀ size : ScreenVector,
        (∀ byte ∈ Command.bytesOf (editor.frame size),
            byte = 0x1b ∨ 0x20 ≤ byte.toNat ∧ byte.toNat ≤ 0x7e) ∧
          ∀ characters : List Char,
            .text characters ∈ editor.frame size →
              ∀ char ∈ characters,
                0x20 ≤ char.toNat ∧ char.toNat ≤ 0x7e := by
  rcases exists_edits_of_uses capacity uses reached with
    ⟨document, edits⟩
  refine
    ⟨?_, edits.replacement_notMem_text, edits.length_text,
      edits.exists_rows, ?_⟩
  · rw [edits.holds.bytes_eq]
    exact edits.typed
  · intro size
    refine ⟨edits.byte_of_frame size, ?_⟩
    intro characters member
    exact edits.isPrintable_frame size _ member

/-- A letter that is not ASCII is not typed. -/
theorem bytes_are_columns_of_letters :
    let uses : List EditorUse :=
      [.event (.plain (.char 'a')) 3, .event (.plain (.char 'é')) 3,
        .event (.plain .enter) 0, .event (.plain (.char '~')) 3,
        .event .unknown 3, .scroll 1]
    let editor : Editor :=
      { buffer := ⟨#[97, 10, 126, 0], { start := 3, stop := 4 }⟩
        scroll := 1 }
    (do (← withCapacity 4).useAll uses) = .ok editor ∧
      editor.buffer.text = "a\n~" ∧
      Utf8.replacement ∉ editor.buffer.text.toList ∧
      editor.buffer.text.length = 3 := by
  intro uses editor
  have reached : (do (← withCapacity 4).useAll uses) = .ok editor :=
    rfl
  have columns := bytes_are_columns 4 uses reached
  exact ⟨reached, rfl, columns.2.1, columns.2.2.1⟩

end TerminalEditor.Editor
