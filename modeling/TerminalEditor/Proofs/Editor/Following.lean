import TerminalEditor.Proofs.Editor.Keeping
import TerminalEditor.Proofs.Editor.Showing

/-!
# Following the cursor

A scroll shows the cursor's row and moves the first row in view no farther than
it has to.  Between two scrolls the cursor may leave the rows in view, but no row
of a text is ever taken away, so the first row in view is always a row of the
text, and a frame with a row for text shows it.
-/

namespace TerminalEditor

/-! ## One scroll -/

namespace Editor

/-- The first row in view, where rows are taken from a row with a check. -/
def followChecked
    (scroll row rows : Nat) :
    Checked Nat :=
  if row < scroll then
    pure row
  else if scroll + max rows 1 ≤ row then
    Checked.difference (row + 1) (max rows 1)
  else
    pure scroll

/-- There are always as many rows as are taken away. -/
theorem followChecked_eq (scroll row rows : Nat) :
    followChecked scroll row rows = .ok (follow scroll row rows) := by
  rw [followChecked, follow]
  split
  · rfl
  · split
    · next below => exact Checked.difference_of_le (by omega)
    · rfl

/-- A row in view is followed without scrolling. -/
theorem follow_of_shown
    {scroll row rows : Nat}
    (above : scroll ≤ row)
    (below : row < scroll + max rows 1) :
    follow scroll row rows = scroll := by
  rw [follow, if_neg (Nat.not_lt.mpr above),
    if_neg (Nat.not_le.mpr below)]

/-- All other first rows that show a row are farther away. -/
theorem follow_nearest
    (scroll row rows : Nat)
    {other : Nat}
    (above : other ≤ row)
    (below : row < other + max rows 1)
    (different : other ≠ follow scroll row rows) :
    ((follow scroll row rows : Int) - scroll).natAbs <
      ((other : Int) - scroll).natAbs := by
  -- The first rows that show the row lie between `row + 1 - max rows 1` and
  -- `row`; going up the last of these is taken, and going down the first.
  unfold follow at different ⊢
  split at different
  · next up =>
    rw [if_pos up]
    omega
  · next notUp =>
    rw [if_neg notUp]
    split at different
    · next down =>
      rw [if_pos down]
      omega
    · next shown =>
      rw [if_neg shown]
      omega

end Editor

/-! ## Views in use -/

namespace Document

variable (document : Document)

/-- The last row is counted by the newlines of the text. -/
theorem lastRow_eq_count :
    document.lastRow = document.bytes.count newline := by
  rw [lastRow, rows, Text.length_fields, Nat.add_sub_cancel]

/-- No use takes a row away. -/
theorem lastRow_le_use (use : EditorUse) :
    document.lastRow ≤ (document.use use).lastRow := by
  rw [lastRow_eq_count, lastRow_eq_count]
  exact (document.sublist_use use).count_le newline

end Document

namespace View

/-- The view after one use of an editor that has it. -/
def use (view : View) : EditorUse → View
  | .event event pageRows =>
    { view with document := view.document.handle event pageRows }
  | .scroll rows =>
    { view with
      scroll := Editor.follow view.scroll view.document.position.row rows }

/-- The view after some uses, one after the other. -/
def useAll
    (view : View)
    (uses : List EditorUse) :
    View :=
  uses.foldl use view

variable {view : View}

/-- A view that starts at a row of its text. -/
def IsInside (view : View) : Prop :=
  view.scroll ≤ view.document.lastRow

theorem document_use (use : EditorUse) :
    (view.use use).document = view.document.use use := by
  cases use <;> rfl

/-- One use leaves a view that starts at a row of its text. -/
theorem IsInside.use
    (inside : view.IsInside)
    (use : EditorUse) :
    (view.use use).IsInside := by
  cases use with
  | event event pageRows =>
    exact
      Nat.le_trans inside
        (view.document.lastRow_le_use (.event event pageRows))
  | scroll rows =>
    exact
      Nat.le_trans (Editor.follow_shows _ _ rows).1
        view.document.position_row_le

/-- Whatever a view is used for, it starts at a row of its text. -/
theorem IsInside.useAll
    (inside : view.IsInside)
    (uses : List EditorUse) :
    (view.useAll uses).IsInside := by
  induction uses generalizing view with
  | nil => exact inside
  | cons first later ih => exact ih (inside.use first)

end View

/-! ## Editors and their views -/

namespace Editor

variable
    {editor next : Editor}
    {view : View}

/-- An editor of the document that a view shows, from the same row on. -/
structure Has
    (editor : Editor)
    (view : View) : Prop where
  edits : editor.Edits view.document
  scroll_eq : editor.scroll = view.scroll

theorem has_of_withCapacity
    {capacity : Nat}
    (created : withCapacity capacity = .ok editor) :
    editor.Has .empty := by
  rcases edits_of_withCapacity created with ⟨-, scrollEq, edits⟩
  exact ⟨edits, scrollEq⟩

/-- No event scrolls. -/
theorem scroll_of_handle
    {event : Event}
    {pageRows : Nat}
    {flow : Flow}
    (handled : editor.handle event pageRows = .ok (flow, next)) :
    next.scroll = editor.scroll := by
  cases asked : Action.ofEvent? event with
  | none =>
    rw [handle, asked] at handled
    cases handled
    rfl
  | some action =>
    rw [handle_of_action pageRows asked] at handled
    rcases Checked.exists_of_bind_eq_ok handled with ⟨buffer, acted, same⟩
    cases same
    rfl

/-- One use of an editor is the use of its view. -/
theorem Has.use
    (has : editor.Has view)
    (use : EditorUse)
    (used : editor.use use = .ok next) :
    next.Has (view.use use) := by
  constructor
  · rw [View.document_use]
    exact has.edits.use use used
  · cases use with
    | event event pageRows =>
      rcases Checked.exists_of_bind_eq_ok used with
        ⟨⟨flow, handled⟩, answered, same⟩
      cases same
      exact (scroll_of_handle answered).trans has.scroll_eq
    | scroll rows =>
      cases used
      rw [scrollToCursor, has.edits.row_eq, has.scroll_eq]
      rfl

/-- Uses of an editor one after the other are those of its view. -/
theorem Has.useAll
    (has : editor.Has view)
    (uses : List EditorUse)
    (used : editor.useAll uses = .ok next) :
    next.Has (view.useAll uses) := by
  induction uses generalizing editor view with
  | nil =>
    cases used
    exact has
  | cons first later ih =>
    rcases Checked.exists_of_bind_eq_ok used with ⟨middle, step, rest⟩
    exact ih (has.use first step) rest

/-- A new editor that was used has in view what the uses lead to. -/
theorem has_of_uses
    (capacity : Nat)
    (uses : List EditorUse)
    (reached : (do (← withCapacity capacity).useAll uses) = .ok editor) :
    editor.Has (View.empty.useAll uses) := by
  rcases Checked.exists_of_bind_eq_ok reached with
    ⟨first, created, used⟩
  exact (has_of_withCapacity created).useAll uses used

/-- A frame with a row for text shows the first row in view. -/
theorem Edits.exists_row_shown
    {document : Document}
    (edits : editor.Edits document)
    (inside : editor.scroll ≤ document.lastRow)
    (size : ScreenVector)
    (room : 1 ≤ textRows size) :
    ∃ row : Bytes,
      document.rows[editor.scroll]? = some row ∧
        let shown := (row.map Utf8.charOf).take size.x.toNat
        (editor.visibleRows size).head? = some shown ∧
          (1 ≤ size.x.toNat →
            [.moveTo ⟨0, 0⟩, .text shown] <:+: editor.frame size) := by
  rcases document.exists_rows inside with
    ⟨upper, row, lower, found, reached⟩
  have present : document.rows[editor.scroll]? = some row := by
    rw [found, ← reached, List.getElem?_append_right (Nat.le_refl _),
      Nat.sub_self]
    rfl
  have first := edits.getElem?_visibleRows size room
  rw [Nat.add_zero, present, Option.map_some] at first
  refine ⟨row, present, ?_, ?_⟩
  · rw [List.head?_eq_getElem?, first]
  · intro wide
    have high : 0 < size.y.toNat := by
      rw [textRows] at room
      omega
    rw [frame_of_present editor wide high]
    cases rows : editor.visibleRows size with
    | nil =>
      rw [rows] at first
      cases first
    | cons top others =>
      rw [rows] at first
      cases first
      have drawn (top : List Char) :
          drawRows 0 (top :: others) =
            [.moveTo ⟨0, 0⟩, .text top] ++ drawRows 1 others :=
        rfl
      refine
        ⟨.showCursor false :: Command.ofStyle .plain ++ [.clear],
          drawRows 1 others ++ editor.drawStatus size ++
            [.moveTo (editor.cursorCell size), .showCursor true], ?_⟩
      simp only [drawn, List.append_assoc]

/-- The first row in view leaves room to count the rows of any screen. -/
theorem Edits.scroll_add_lt
    {document : Document}
    (edits : editor.Edits document)
    (inside : editor.scroll ≤ document.lastRow)
    (size : ScreenVector) :
    editor.scroll + max (textRows size) 1 < Capacity.countLimit := by
  have small := edits.holds.length_lt
  have lastLe := document.lastRow_le
  have low := size.y.toNat_lt
  have storage : Capacity.storageLimit = 9223372036854775808 := rfl
  have count : Capacity.countLimit = 18446744073709551616 := rfl
  rw [textRows]
  omega

/--
After every scroll the cursor's row is in view, and no first row that shows it is
nearer to the one before the scroll; so nothing is scrolled if the row was in view,
nor by a second scroll.  No more rows are taken from the cursor's row than there
are, and no count of rows on a screen is too large for that.  At all times the
first row in view is a row of the text, and a frame with a row for text starts
with it.
-/
theorem cursor_kept_in_view
    (capacity : Nat)
    (uses : List EditorUse)
    {editor : Editor}
    (reached : (do (← withCapacity capacity).useAll uses) = .ok editor) :
    (∀ rows : Nat,
      let row := editor.buffer.row
      let scrolled := editor.scrollToCursor rows
      scrolled.scroll ≤ row ∧
        row < scrolled.scroll + max rows 1 ∧
        (∀ other : Nat,
          other ≤ row → row < other + max rows 1 →
            other ≠ scrolled.scroll →
              ((scrolled.scroll : Int) - editor.scroll).natAbs <
                ((other : Int) - editor.scroll).natAbs) ∧
        (editor.scroll ≤ row → row < editor.scroll + max rows 1 →
          scrolled = editor) ∧
        scrolled.scrollToCursor rows = scrolled ∧
        followChecked editor.scroll row rows = .ok scrolled.scroll) ∧
      editor.scroll ≤ editor.buffer.document.lastRow ∧
      ∀ size : ScreenVector,
        editor.scroll + max (textRows size) 1 < Capacity.countLimit ∧
          (1 ≤ textRows size →
            ∃ row : Bytes,
              editor.buffer.document.rows[editor.scroll]? = some row ∧
                let shown := (row.map Utf8.charOf).take size.x.toNat
                (editor.visibleRows size).head? = some shown ∧
                  (1 ≤ size.x.toNat →
                    [.moveTo ⟨0, 0⟩, .text shown] <:+:
                      editor.frame size)) := by
  have has := has_of_uses capacity uses reached
  have start : View.empty.IsInside := Nat.zero_le _
  have inside := start.useAll uses
  rw [View.IsInside, ← has.scroll_eq, ← has.edits.holds.document_eq]
    at inside
  have edits := has.edits
  rw [← edits.holds.document_eq] at edits
  refine ⟨?_, inside, ?_⟩
  · intro rows row scrolled
    have shows := follow_shows editor.scroll row rows
    refine ⟨shows.1, shows.2, ?_, ?_, ?_, ?_⟩
    · intro other above below different
      exact follow_nearest editor.scroll row rows above below different
    · intro above below
      have still := follow_of_shown above below
      exact congrArg (fun scroll => { editor with scroll }) still
    · have settled := follow_follow editor.scroll row rows
      exact congrArg (fun scroll => { editor with scroll }) settled
    · exact followChecked_eq editor.scroll row rows
  · intro size
    exact
      ⟨edits.scroll_add_lt inside size,
        edits.exists_row_shown inside size⟩

/-- A jump to the top of a text of which the last rows are in view. -/
theorem cursor_kept_in_short_window :
    let uses : List EditorUse :=
      [.event (.plain (.char 'a')) 3, .event (.plain .enter) 3,
        .event (.plain .enter) 3, .event (.plain .newline) 3, .scroll 2,
        .event (.key ⟨.home, .controlOnly⟩) 3]
    let editor : Editor :=
      { buffer := ⟨#[0, 0, 0, 0, 97, 10, 10, 10], { start := 0, stop := 4 }⟩
        scroll := 2 }
    let size : ScreenVector := ⟨3, 3⟩
    (do (← withCapacity 3).useAll uses) = .ok editor ∧
      (editor.scrollToCursor 0).scroll ≤ 0 ∧
      followChecked 2 0 0 = .ok (editor.scrollToCursor 0).scroll ∧
      editor.scroll ≤ 3 ∧
      [.moveTo ⟨0, 0⟩, .text []] <:+: editor.frame size := by
  intro uses editor size
  have reached : (do (← withCapacity 3).useAll uses) = .ok editor := by
    decide +kernel
  rcases cursor_kept_in_view 3 uses reached with ⟨scrolls, inside, frames⟩
  rcases scrolls 0 with ⟨above, -, -, -, -, checked⟩
  rcases (frames size).2 (by decide) with ⟨row, present, -, drawn⟩
  cases present
  exact ⟨reached, above, checked, inside, drawn (by decide)⟩

end Editor

end TerminalEditor
