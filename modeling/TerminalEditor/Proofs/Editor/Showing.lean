import TerminalEditor.Editor.Loop
import TerminalEditor.Proofs.Editor.Window

/-!
# Views that a loop shows

A view is a document with the first row of it that is in view.  A loop shows a
view when its editor holds the document and its last frame was drawn from it.
An event is handled by the loop as it is by the view, and a frame that is drawn
once more is the same, since a view that has followed the cursor follows it to
where it is.
-/

namespace TerminalEditor

/-! ## Views -/

/-- A document and the first row of it that is in view. -/
structure View where
  document : Document
  scroll : Nat
  deriving DecidableEq, Repr

/-- The key that quits. -/
def Event.quit : Event :=
  .key ⟨.char 'Q', .controlOnly⟩

namespace View

/-- The view of an empty text. -/
def empty : View :=
  ⟨⟨[], 0⟩, 0⟩

/-- The view after an event, where the cursor is shown in `rows` rows. -/
def handle
    (view : View)
    (event : Event)
    (rows : Nat) :
    View :=
  let document := view.document.handle event rows
  ⟨document, Editor.follow view.scroll document.position.row rows⟩

/-- What some events lead to, and the view after them. -/
def handleAll
    (view : View)
    (rows : Nat) :
    List Event → List Session.Handled × View
  | [] => ([], view)
  | event :: later =>
    let next := view.handle event rows
    let rest := next.handleAll rows later
    ({ event
       flow := event.flow
       position := next.document.position
       scroll := next.scroll } :: rest.1,
      rest.2)

/-- The rows of the text that are in view, cut at the width. -/
def visibleRows
    (view : View)
    (size : ScreenVector) :
    List (List Char) :=
  ((view.document.rows.drop view.scroll).take (textRows size)).map
    fun row => (row.map Utf8.charOf).take size.x.toNat

/-- The cell in which the cursor is shown. -/
def cursorCell
    (view : View)
    (size : ScreenVector) :
    ScreenVector :=
  let position := view.document.position
  (Vec2.mk position.column (position.row - view.scroll)).componentMin
    ⟨size.x.toNat - 1, textRows size - 1⟩ |>.toScreen

/-- The commands that draw the whole screen. -/
def frame
    (view : View)
    (size : ScreenVector) :
    List Command :=
  let blank :=
    .showCursor false :: Command.ofStyle .plain ++ [.clear]
  let status := Editor.statusLine view.document
  if size.x = 0 ∨ size.y = 0 then
    blank
  else
    blank ++ Editor.drawRows 0 (view.visibleRows size) ++
      (.moveTo ⟨0, size.y - 1⟩ :: Command.ofStyle .inverted ++
        [.text (Editor.fit size.x.toNat status)] ++
        Command.ofStyle .plain) ++
      [.moveTo (view.cursorCell size), .showCursor true]

end View

namespace Editor

variable
    {editor : Editor}
    {document : Document}

theorem Edits.row_eq
    (edits : editor.Edits document) :
    editor.buffer.row = document.position.row := by
  rw [← GapBuffer.position_row, edits.holds.position_eq]

/-- A frame is drawn from the document and the first row in view alone. -/
theorem Edits.frame_eq
    (edits : editor.Edits document)
    (size : ScreenVector) :
    editor.frame size = View.frame ⟨document, editor.scroll⟩ size := by
  have rows :
      editor.visibleRows size =
        View.visibleRows ⟨document, editor.scroll⟩ size := by
    rw [visibleRows, edits.fields_eq, View.visibleRows, ← List.map_drop,
      ← List.map_take, List.map_map]
    rfl
  have cell :
      editor.cursorCell size =
        View.cursorCell ⟨document, editor.scroll⟩ size := by
    rw [cursorCell, edits.holds.position_eq]
    rfl
  rw [frame, rows, cell, drawStatus, edits.status_eq]
  rfl

/-- A row that was followed is followed to where it is. -/
theorem follow_follow (scroll row rows : Nat) :
    follow (follow scroll row rows) row rows =
      follow scroll row rows := by
  have shows := follow_shows scroll row rows
  rw [follow, if_neg (Nat.not_lt.mpr shows.1),
    if_neg (Nat.not_le.mpr shows.2)]

/-- The first row is followed to the top. -/
theorem follow_zero (scroll rows : Nat) :
    follow scroll 0 rows = 0 :=
  Nat.le_zero.mp (follow_shows scroll 0 rows).1

end Editor

/-! ## Loops that show a view -/

/-- What is seen of a loop at its end. -/
structure Outcome where
  handled : List Session.Handled
  isDone : Bool
  text : Bytes
  cursor : Nat
  position : Position
  scroll : Nat
  frame : List Command
  deriving DecidableEq, Repr

/-- What is seen of a loop. -/
def Loop.outcome (loop : Loop) : Outcome where
  handled := loop.handled
  isDone := loop.session.isDone
  text := loop.session.editor.buffer.bytes
  cursor := loop.session.editor.buffer.front.length
  position := loop.session.editor.buffer.position
  scroll := loop.session.editor.scroll
  frame := loop.frame

/-- What is seen of a view. -/
def View.outcome
    (view : View)
    (size : ScreenVector)
    (handled : List Session.Handled)
    (isDone : Bool) :
    Outcome where
  handled
  isDone
  text := view.document.bytes
  cursor := view.document.cursor
  position := view.document.position
  scroll := view.scroll
  frame := view.frame size

namespace Session

/-- A session whose editor has a view that has followed the cursor. -/
structure Views
    (session : Session)
    (view : View) : Prop where
  edits : session.editor.Edits view.document
  scroll_eq : session.editor.scroll = view.scroll
  followed :
    Editor.follow view.scroll view.document.position.row
        (textRows session.size) =
      view.scroll

variable
    {session : Session}
    {view : View}
    {document : Document}

/-- The view of a session follows the cursor of its document. -/
theorem views_scrolled
    (edits : session.editor.Edits document) :
    session.scrolled.Views
      ⟨document,
        Editor.follow session.editor.scroll document.position.row
          (textRows session.size)⟩ := by
  constructor
  · exact ⟨edits.holds, edits.typed⟩
  · rw [← edits.row_eq]
    rfl
  · exact Editor.follow_follow _ _ _

/-- A view that has followed the cursor stays where it is. -/
theorem Views.scrolled_eq
    (views : session.Views view) :
    session.scrolled = session := by
  rw [scrolled, Editor.scrollToCursor, views.edits.row_eq,
    views.scroll_eq, views.followed, ← views.scroll_eq]

/-- A view that was followed is followed to where it is. -/
theorem scrolled_scrolled (session : Session) :
    session.scrolled.scrolled = session.scrolled := by
  simp only [scrolled, Editor.scrollToCursor, Editor.follow_follow]

/-- A session draws its view. -/
theorem Views.frame_eq
    (views : session.Views view) :
    session.editor.frame session.size = view.frame session.size := by
  rw [views.edits.frame_eq, views.scroll_eq]

end Session

namespace Loop

/-- A loop whose session has a view that was drawn last. -/
structure Shows
    (loop : Loop)
    (view : View) : Prop where
  views : loop.session.Views view
  frame_eq : loop.frame = view.frame loop.session.size

variable
    {loop : Loop}
    {view : View}

theorem Shows.outcome_eq
    (shows : loop.Shows view) :
    loop.outcome =
      view.outcome loop.session.size loop.handled
        loop.session.isDone := by
  have holds := shows.views.edits.holds
  rw [outcome, View.outcome, holds.bytes_eq, holds.length_front,
    holds.position_eq, shows.views.scroll_eq, shows.frame_eq]

/-- What is pending is not in view. -/
theorem Shows.with_decoder
    (shows : loop.Shows view)
    (decoder : Decoder) :
    ({ loop with session := { loop.session with decoder } } :
      Loop).Shows view :=
  ⟨⟨shows.views.edits, shows.views.scroll_eq, shows.views.followed⟩,
    shows.frame_eq⟩

/-- A loop draws the view that its session has. -/
theorem shows_draw
    (views : loop.session.Views view) :
    loop.draw.Shows view := by
  have still : loop.draw.session = loop.session := views.scrolled_eq
  have drawn :
      loop.draw.frame =
        loop.draw.session.editor.frame loop.draw.session.size :=
    rfl
  constructor
  · rw [still]
    exact views
  · rw [drawn, still, views.frame_eq]

/-- A frame that is drawn once more is the last frame. -/
theorem Shows.draw_eq
    (shows : loop.Shows view) :
    loop.draw = loop := by
  simp only [draw, shows.views.scrolled_eq, shows.views.frame_eq,
    ← shows.frame_eq]

end Loop

/-! ## One event -/

theorem Event.flow_beq_quits (event : Event) :
    (event.flow == .quits) = decide (event = .quit) := by
  rw [Event.flow]
  by_cases quits : event = .quit
  · rw [if_pos (Action.ofEvent?_eq_quit_iff.mpr quits),
      decide_eq_true quits]
    rfl
  · rw [if_neg (mt Action.ofEvent?_eq_quit_iff.mp quits),
      decide_eq_false quits]
    rfl

/-- What a view leads to at an event. -/
def View.handled
    (view : View)
    (event : Event) :
    Session.Handled where
  event
  flow := event.flow
  position := view.document.position
  scroll := view.scroll

namespace Session

variable
    {session : Session}
    {view : View}
    {event : Event}

/-- A session goes on with the editor that has handled an event. -/
theorem handleAll_of_handle
    {flow : Flow}
    {editor : Editor}
    (going : session.isDone = false)
    (answered :
      session.editor.handle event (textRows session.size) =
        .ok (flow, editor)) :
    let next := scrolled { session with editor, isDone := flow == .quits }
    session.handleAll [event] =
      .ok
        ([{ event
            flow
            position := next.editor.buffer.position
            scroll := next.editor.scroll }],
          next) := by
  rw [handleAll, if_neg (by rw [going]; exact Bool.false_ne_true),
    answered]
  rfl

/-- A session after an event that its view has handled. -/
structure HasHandled
    (next session : Session)
    (view : View)
    (event : Event) : Prop where
  views : next.Views view
  isDone_eq : next.isDone = decide (event = .quit)
  size_eq : next.size = session.size
  decoder_eq : next.decoder = session.decoder

/-- An event that has room is handled as the view handles it. -/
theorem Views.handleAll_of_room {admitted : Occupancy}
    (views : session.Views view)
    (going : session.isDone = false)
    (room :
      session.editor.buffer.occupancy.insert? event.inserted.length =
        some admitted) :
    let nextView := view.handle event (textRows session.size)
    ∃ next : Session,
      session.handleAll [event] = .ok ([nextView.handled event], next) ∧
        next.editor.buffer.occupancy = admitted ∧
        next.HasHandled session nextView event := by
  intro nextView
  rcases views.edits.handle_of_room (textRows session.size) room with
    ⟨buffer, answered, occupancyEq, edits⟩
  let moved : Session :=
    { session with
      editor := { session.editor with buffer }
      isDone := event.flow == .quits }
  have followed : moved.scrolled.Views nextView := by
    have after := views_scrolled (show moved.editor.Edits _ from edits)
    have scroll : moved.editor.scroll = view.scroll := views.scroll_eq
    rw [scroll] at after
    exact after
  refine ⟨moved.scrolled, ?_, occupancyEq, followed, ?_, rfl, rfl⟩
  · rw [handleAll_of_handle going answered, View.handled,
      ← followed.edits.holds.position_eq, ← followed.scroll_eq]
  · exact event.flow_beq_quits

/-- An event without room overflows. -/
theorem Views.handleAll_of_crowded
    (views : session.Views view)
    (going : session.isDone = false)
    (refused :
      session.editor.buffer.occupancy.insert? event.inserted.length =
        none) :
    session.handleAll [event] = .error .capacityOverflow := by
  rw [handleAll, if_neg (by rw [going]; exact Bool.false_ne_true),
    views.edits.handle_of_crowded _ refused]
  rfl

/-- The event that quits leaves the view. -/
theorem Views.handle_quit
    (views : session.Views view) :
    view.handle .quit (textRows session.size) = view := by
  have same :
      view.document.handle .quit (textRows session.size) =
        view.document :=
    rfl
  rw [View.handle, same, views.followed]

end Session

namespace Loop

variable
    {loop : Loop}
    {view : View}
    {event : Event}

/-- An event that has room is handled as the view handles it, and is shown. -/
theorem Shows.handle_of_room {admitted : Occupancy}
    (shows : loop.Shows view)
    (going : loop.session.isDone = false)
    (room :
      loop.session.editor.buffer.occupancy.insert?
          event.inserted.length =
        some admitted) :
    let nextView := view.handle event (textRows loop.session.size)
    ∃ next : Loop,
      loop.handle event = .ok next ∧
        next.session.editor.buffer.occupancy = admitted ∧
        next.session.HasHandled loop.session nextView event ∧
        next.Shows nextView ∧
        next.handled = loop.handled ++ [nextView.handled event] := by
  intro nextView
  rcases shows.views.handleAll_of_room going room with
    ⟨session, answered, occupancyEq, has⟩
  let next : Loop :=
    { loop with
      session
      handled := loop.handled ++ [nextView.handled event] }
  have handles :
      loop.handle event =
        .ok (if session.isDone then next else next.draw) := by
    rw [handle, answered]
    rfl
  have drawn : next.draw.Shows nextView := shows_draw has.views
  -- Nothing is drawn after the event that quits, but it leaves the view.
  by_cases quits : event = .quit
  · rw [if_pos (by rw [has.isDone_eq]; exact decide_eq_true quits)]
      at handles
    have frame : loop.frame = nextView.frame session.size := by
      rw [has.size_eq, shows.frame_eq, ← shows.views.handle_quit, ← quits]
    exact ⟨next, handles, occupancyEq, has, ⟨has.views, frame⟩, rfl⟩
  · rw [if_neg (by rw [has.isDone_eq, decide_eq_false quits]; nofun)]
      at handles
    have still : next.draw.session = session := has.views.scrolled_eq
    exact
      ⟨next.draw, handles, by rw [still]; exact occupancyEq,
        by rw [still]; exact has, drawn, rfl⟩

/-- An event without room overflows. -/
theorem Shows.handle_of_crowded
    (shows : loop.Shows view)
    (going : loop.session.isDone = false)
    (refused :
      loop.session.editor.buffer.occupancy.insert?
          event.inserted.length =
        none) :
    loop.handle event = .error .capacityOverflow := by
  rw [handle, shows.views.handleAll_of_crowded going refused]
  rfl

/-- After the event that quits, no event is handled. -/
theorem handle_of_done
    (isDone : loop.session.isDone = true)
    (event : Event) :
    loop.handle event = .ok loop := by
  rw [handle, Session.handleAll, if_pos isDone, Checked.pure_eq_ok,
    Checked.ok_bind]
  simp only [List.append_nil, if_pos isDone]
  rfl

end Loop

end TerminalEditor
