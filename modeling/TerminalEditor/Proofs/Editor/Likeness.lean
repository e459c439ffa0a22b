import TerminalEditor.Buffer.Shown
import TerminalEditor.Proofs.Editor.Following

/-!
# Editors that are alike

Two editors that have the same view are alike to a caller, however large their
storages are and whenever these grow.  A call of an editor answers and shows what
the view does, so it answers and shows the same for both, as long as neither
storage has to grow too far.
-/

namespace TerminalEditor

/-- One call of an editor. -/
inductive EditorCall
  | use (use : EditorUse)
  | draw (size : ScreenVector)
  deriving DecidableEq, Repr

/-- What a caller sees of an editor after a call. -/
structure EditorSeen where
  /-- The answer to an event. -/
  flow : Option Flow
  /-- The bytes of the frame that was drawn. -/
  drawn : Bytes
  text : String
  buffer : Seen
  scroll : Nat
  deriving DecidableEq, Repr

/-- The bytes that a call puts into a text. -/
def EditorCall.inserted : EditorCall → Bytes
  | .use (.event event _) => event.inserted
  | .use (.scroll _) => []
  | .draw _ => []

theorem EditorCall.length_inserted_le (call : EditorCall) :
    call.inserted.length ≤ 1 := by
  cases call with
  | use use =>
    cases use with
    | event event pageRows => exact event.length_inserted_le
    | scroll rows => exact Nat.zero_le 1
  | draw size => exact Nat.zero_le 1

namespace Editor

/-- What is seen of an editor. -/
def seen
    (editor : Editor)
    (flow : Option Flow)
    (drawn : Bytes) :
    EditorSeen where
  flow
  drawn
  text := editor.buffer.text
  buffer := editor.buffer.seen none
  scroll := editor.scroll

/-- What is seen after a call, and the editor after it. -/
def call
    (editor : Editor) :
    EditorCall → Checked (EditorSeen × Editor)
  | .use (.event event pageRows) => do
    let (flow, next) ← editor.handle event pageRows
    return (next.seen (some flow) [], next)
  | .use (.scroll rows) =>
    let next := editor.scrollToCursor rows
    return (next.seen none [], next)
  | .draw size =>
    return (editor.seen none (Command.bytesOf (editor.frame size)), editor)

/-- What is seen after each of some calls. -/
def history
    (editor : Editor) :
    List EditorCall → Checked (List EditorSeen)
  | [] => pure []
  | call :: later => do
    let (seen, next) ← editor.call call
    return seen :: (← next.history later)

end Editor

namespace View

/-- What is seen of a view. -/
def seen
    (view : View)
    (flow : Option Flow)
    (drawn : Bytes) :
    EditorSeen where
  flow
  drawn
  text := String.ofList (Utf8.lossy view.document.bytes)
  buffer := view.document.seen none
  scroll := view.scroll

/-- What is seen after a call, and the view after it. -/
def call (view : View) : EditorCall → EditorSeen × View
  | .use (.event event pageRows) =>
    let next := view.use (.event event pageRows)
    (next.seen (some event.flow) [], next)
  | .use (.scroll rows) =>
    let next := view.use (.scroll rows)
    (next.seen none [], next)
  | .draw size =>
    (view.seen none (Command.bytesOf (view.frame size)), view)

/-- What is seen after each of some calls. -/
def history (view : View) : List EditorCall → List EditorSeen
  | [] => []
  | call :: later =>
    let (seen, next) := view.call call
    seen :: next.history later

end View

namespace Editor

variable
    {editor : Editor}
    {view : View}

/-- What is seen of an editor is what is seen of its view. -/
theorem Has.seen_eq
    (has : editor.Has view)
    (flow : Option Flow)
    (drawn : Bytes) :
    editor.seen flow drawn = view.seen flow drawn := by
  have holds := has.edits.holds
  rw [seen, View.seen, GapBuffer.text, holds.bytes_eq, holds.seen_eq,
    has.scroll_eq]

theorem Has.frame_eq
    (has : editor.Has view)
    (size : ScreenVector) :
    editor.frame size = view.frame size := by
  rw [has.edits.frame_eq, has.scroll_eq]

/-- A call that has room answers and shows what the view does. -/
theorem Has.call_of_room
    {admitted : Occupancy}
    (has : editor.Has view)
    (call : EditorCall)
    (room :
      editor.buffer.occupancy.insert? call.inserted.length =
        some admitted) :
    ∃ next : Editor,
      editor.call call = .ok ((view.call call).1, next) ∧
        next.buffer.occupancy = admitted ∧
        next.Has (view.call call).2 := by
  cases call with
  | use use =>
    cases use with
    | event event pageRows =>
      rcases has.edits.handle_of_room pageRows room with
        ⟨buffer, handled, occupancyEq, edits⟩
      have nextHas :
          ({ editor with buffer } : Editor).Has
            (view.use (.event event pageRows)) :=
        ⟨edits, has.scroll_eq⟩
      refine ⟨_, ?_, occupancyEq, nextHas⟩
      rw [Editor.call, handled, Checked.ok_bind]
      simp only [nextHas.seen_eq]
      rfl
    | scroll rows =>
      cases room
      have nextHas := has.use (.scroll rows) rfl
      refine ⟨editor.scrollToCursor rows, ?_, rfl, nextHas⟩
      rw [Editor.call, nextHas.seen_eq]
      rfl
  | draw size =>
    cases room
    refine ⟨editor, ?_, rfl, has⟩
    rw [Editor.call, has.seen_eq, has.frame_eq]
    rfl

/-- A call without room overflows. -/
theorem Has.call_of_crowded
    (has : editor.Has view)
    (call : EditorCall)
    (refused :
      editor.buffer.occupancy.insert? call.inserted.length = none) :
    editor.call call = .error .capacityOverflow := by
  cases call with
  | use use =>
    cases use with
    | event event pageRows =>
      rw [Editor.call, has.edits.handle_of_crowded pageRows refused]
      rfl
    | scroll rows => cases refused
  | draw size => cases refused

/-- Whole histories are those of the view, as long as there is room. -/
theorem Has.history_eq
    (has : editor.Has view)
    (calls : List EditorCall) :
    editor.history calls =
      if (editor.buffer.occupancy.insertAll?
          (calls.map (·.inserted.length))).isSome then
        .ok (view.history calls)
      else
        .error .capacityOverflow := by
  induction calls generalizing editor view with
  | nil => rfl
  | cons call later ih =>
    rw [history, List.map_cons, Occupancy.insertAll?]
    cases room :
        editor.buffer.occupancy.insert? call.inserted.length with
    | none =>
      rw [has.call_of_crowded call room]
      rfl
    | some admitted =>
      rcases has.call_of_room call room with
        ⟨next, answered, rfl, nextHas⟩
      simp only [answered, Checked.ok_bind, Option.bind_some,
        ih nextHas, View.history]
      split <;> rfl

/-- A new editor has the history of the view of an empty text. -/
theorem history_of_new_editor
    {capacity : Nat}
    (small : capacity < Capacity.storageLimit)
    (calls : List EditorCall) :
    (do (← withCapacity capacity).history calls) =
      if (Occupancy.insertAll? ⟨capacity, 0⟩
          (calls.map (·.inserted.length))).isSome then
        .ok (View.empty.history calls)
      else
        .error .capacityOverflow := by
  rcases GapBuffer.holds_withCapacity small with
    ⟨buffer, allocated, occupancyEq, -⟩
  have created : withCapacity capacity = .ok { buffer } := by
    rw [withCapacity, allocated]
    rfl
  rw [created, Checked.ok_bind, (has_of_withCapacity created).history_eq]
  simp only [occupancyEq]

/-- A quarter of the largest storage is enough for as many calls. -/
theorem isSome_insertAll?_calls
    (capacity : Nat)
    {calls : List EditorCall}
    (few : calls.length ≤ Capacity.storageLimit / 4) :
    (Occupancy.insertAll? ⟨capacity, 0⟩
      (calls.map (·.inserted.length))).isSome := by
  have single : ∀ text ∈ calls.map (·.inserted), text.length ≤ 1 := by
    intro text member
    rcases List.mem_map.mp member with ⟨call, -, rfl⟩
    exact call.length_inserted_le
  have short := length_flatten_le single
  rw [List.length_map] at short
  have admitted :
      (Occupancy.insertAll? ⟨capacity, 0⟩
        ((calls.map (·.inserted)).map (·.length))).isSome :=
    Occupancy.isSome_insertAll? _ (by simp only; omega)
  rwa [List.map_map] at admitted

/--
The capacity that an editor starts with is not seen.  The same calls of two new
editors are answered alike, show the same text, position and first row in view
after each of them, and draw the same frames byte for byte, unless one of the two
storages has to grow too far.  That takes more calls than a quarter of the
largest storage has bytes.
-/
theorem capacity_unobservable
    {first second : Nat}
    (firstSmall : first < Capacity.storageLimit)
    (secondSmall : second < Capacity.storageLimit)
    (calls : List EditorCall) :
    let history (capacity : Nat) : Checked (List EditorSeen) := do
      (← withCapacity capacity).history calls
    (history first ≠ .error .capacityOverflow →
        history second ≠ .error .capacityOverflow →
          ∃ seen : List EditorSeen,
            history first = .ok seen ∧ history second = .ok seen) ∧
      (calls.length ≤ Capacity.storageLimit / 4 →
        history first ≠ .error .capacityOverflow ∧
          history second ≠ .error .capacityOverflow) := by
  intro history
  have firstHistory := history_of_new_editor firstSmall calls
  have secondHistory := history_of_new_editor secondSmall calls
  constructor
  · intro firstFits secondFits
    refine ⟨View.empty.history calls, ?_, ?_⟩
    · split at firstHistory
      · exact firstHistory
      · exact absurd firstHistory firstFits
    · split at secondHistory
      · exact secondHistory
      · exact absurd secondHistory secondFits
  · intro few
    rw [if_pos (isSome_insertAll?_calls first few)] at firstHistory
    rw [if_pos (isSome_insertAll?_calls second few)] at secondHistory
    constructor
    · rw [show history first = _ from firstHistory]
      nofun
    · rw [show history second = _ from secondHistory]
      nofun

/-- One storage grows before a row that the other has room for. -/
theorem capacity_unobservable_in_midst :
    let calls : List EditorCall :=
      [.use (.event (.plain (.char 'a')) 3), .use (.event (.plain .enter) 3),
        .use (.event (.plain (.char 'b')) 3), .use (.event (.plain .up) 3),
        .draw ⟨6, 2⟩, .use (.event (.plain (.char 'c')) 3), .use (.scroll 0),
        .draw ⟨6, 2⟩, .use (.event (.key ⟨.char 'Q', .controlOnly⟩) 3)]
    0 < Capacity.storageLimit ∧
      7 < Capacity.storageLimit ∧
      ∃ seen : List EditorSeen,
        (do (← withCapacity 0).history calls) = .ok seen ∧
          (do (← withCapacity 7).history calls) = .ok seen := by
  intro calls
  have none : 0 < Capacity.storageLimit := by decide
  have seven : 7 < Capacity.storageLimit := by decide
  rcases capacity_unobservable none seven calls with ⟨alike, fit⟩
  have fits := fit (by decide)
  exact ⟨none, seven, alike fits.1 fits.2⟩

end Editor

end TerminalEditor
