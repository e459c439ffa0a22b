import Mathlib.Control.Monad.Basic
import TerminalEditor.Proofs.Buffer.Growth
import TerminalEditor.Proofs.Editor.Typing

/-!
# Text that is kept

An event leaves an editor as it is, moves the cursor of its text, or puts one
byte in at the cursor.  No event takes a byte away or changes one.  So a text is
found in every later text, with other bytes between its own, and it is as long as
the number of events that have inserted.
-/

namespace TerminalEditor

/-! ## Effects of an event -/

/-- What an event does to a text and its cursor. -/
inductive Effect
  | leaves
  | moves
  | inserts
  deriving DecidableEq, Repr

/-- What an action does to a text and its cursor. -/
def Action.effect : Action → Effect
  | .insert _ => .inserts
  | .move _ => .moves
  | .pageUp => .moves
  | .pageDown => .moves
  | .quit => .leaves

namespace Event

/-- An event that asks for no action leaves the text. -/
def effect (event : Event) : Effect :=
  (Action.ofEvent? event).elim .leaves Action.effect

variable {event : Event}

/-- Events without an action leave the text, and so does the one to quit. -/
theorem effect_eq_leaves_iff :
    event.effect = .leaves ↔
      Action.ofEvent? event = none ∨
        event = .key ⟨.char 'Q', .controlOnly⟩ := by
  rw [← Action.ofEvent?_eq_quit_iff, effect]
  cases Action.ofEvent? event with
  | none => simp
  | some action => cases action <;> simp [Action.effect]

theorem flow_eq_quits_iff :
    event.flow = .quits ↔ event = .key ⟨.char 'Q', .controlOnly⟩ := by
  rw [flow, ← Action.ofEvent?_eq_quit_iff]
  split
  · next quits => simp [quits]
  · next goesOn => simp [goesOn]

/-- Only events that insert put bytes in. -/
theorem inserted_of_ne
    (other : event.effect ≠ .inserts) :
    event.inserted = [] := by
  rw [effect] at other
  rw [inserted]
  cases asked : Action.ofEvent? event with
  | none => rfl
  | some action =>
    rw [asked] at other
    cases action with
    | insert char => exact absurd rfl other
    | _ => rfl

/-- Events that insert ask for an insertion. -/
theorem exists_insert
    (inserts : event.effect = .inserts) :
    ∃ char : Char, Action.ofEvent? event = some (.insert char) := by
  rw [effect] at inserts
  cases asked : Action.ofEvent? event with
  | none =>
    rw [asked] at inserts
    cases inserts
  | some action =>
    rw [asked] at inserts
    cases action with
    | insert char => exact ⟨char, rfl⟩
    | _ => cases inserts

theorem exists_inserted
    (inserts : event.effect = .inserts) :
    ∃ byte : UInt8, event.inserted = [byte] := by
  rcases exists_insert inserts with ⟨char, asked⟩
  exact ⟨_, inserted_of_insert asked⟩

theorem length_inserted (event : Event) :
    event.inserted.length = if event.effect = .inserts then 1 else 0 := by
  split
  · next inserts =>
    rcases exists_inserted inserts with ⟨byte, same⟩
    rw [same]
    rfl
  · next other =>
    rw [inserted_of_ne other]
    rfl

end Event

/-! ## Documents -/

namespace Document

variable (document : Document)

theorem before_append_after :
    document.before ++ document.after = document.bytes :=
  List.take_append_drop _ _

/-- An event puts its bytes in at the cursor and changes no others. -/
theorem bytes_handle
    (event : Event)
    (pageRows : Nat) :
    (document.handle event pageRows).bytes =
      document.before ++ event.inserted ++ document.after := by
  have same :
      document.bytes = document.before ++ [] ++ document.after := by
    rw [List.append_nil, before_append_after]
  rw [handle, Event.inserted]
  cases Action.ofEvent? event with
  | none => exact same
  | some action =>
    cases action with
    | insert char => rfl
    | move motion => exact (document.bytes_navigate motion).trans same
    | pageUp => exact same
    | pageDown => exact same
    | quit => exact same

/-- An event that inserts leaves the cursor behind what it puts in. -/
theorem handle_of_inserts
    {event : Event}
    (pageRows : Nat)
    (inserts : event.effect = .inserts) :
    document.handle event pageRows = document.insert event.inserted := by
  rcases Event.exists_insert inserts with ⟨char, asked⟩
  rw [handle, Event.inserted, asked]
  rfl

/-- One use keeps all bytes, in order. -/
theorem sublist_use (use : EditorUse) :
    document.bytes.Sublist (document.use use).bytes := by
  cases use with
  | scroll rows => exact List.Sublist.refl _
  | event event pageRows =>
    have kept :
        (document.before ++ document.after).Sublist
          (document.before ++ event.inserted ++ document.after) :=
      (List.sublist_append_left _ _).append_right _
    rwa [before_append_after, ← bytes_handle document event pageRows]
      at kept

/-- A text is found in every later text. -/
theorem sublist_useAll (uses : List EditorUse) :
    document.bytes.Sublist (document.useAll uses).bytes := by
  induction uses generalizing document with
  | nil => exact List.Sublist.refl _
  | cons first later ih =>
    exact (document.sublist_use first).trans (ih (document.use first))

end Document

/-- Whether a use is an event that inserts. -/
def EditorUse.inserts : EditorUse → Bool
  | .event given _ => given.effect = .inserts
  | .scroll _ => false

namespace Document

variable (document : Document)

theorem length_use (use : EditorUse) :
    (document.use use).bytes.length =
      document.bytes.length + if use.inserts then 1 else 0 := by
  cases use with
  | scroll rows => rfl
  | event event pageRows =>
    rw [use, bytes_handle, ← before_append_after, List.length_append,
      List.length_append, List.length_append, Event.length_inserted]
    simp only [EditorUse.inserts, decide_eq_true_eq]
    omega

/-- Each event that inserts makes a text one byte longer. -/
theorem length_useAll (uses : List EditorUse) :
    (document.useAll uses).bytes.length =
      document.bytes.length + uses.countP (·.inserts) := by
  induction uses generalizing document with
  | nil => rfl
  | cons first later ih =>
    have rest := ih (document.use first)
    rw [length_use] at rest
    rw [List.countP_cons, Nat.add_comm (List.countP _ later),
      ← Nat.add_assoc, ← rest]
    rfl

end Document

/-! ## Editors -/

/-- There is no room for one more byte if half the largest storage is full. -/
theorem GapBuffer.Holds.insert?_one_eq_none_iff
    {buffer : GapBuffer}
    {document : Document}
    (holds : buffer.Holds document) :
    buffer.occupancy.insert? 1 = none ↔
      buffer.gap.size ≤ 1 ∧ 1 <<< 62 ≤ buffer.capacity := by
  have limit :
      Capacity.powerOfTwoFrom (buffer.capacity + 1) <
          Capacity.storageLimit ↔
        buffer.capacity + 1 ≤ 1 <<< 62 :=
    Capacity.powerOfTwoFrom_lt_storageLimit_iff
  rw [Occupancy.insert?_eq_none_iff, holds.layout.free_eq,
    GapBuffer.capacity_occupancy]
  omega

namespace Editor

/-- An editor whose cursor was moved over a text that stays as it is. -/
structure Moved (before after : Editor) : Prop where
  bytes_eq : after.buffer.bytes = before.buffer.bytes
  capacity_eq : after.buffer.capacity = before.buffer.capacity
  gap_size_eq : after.buffer.gap.size = before.buffer.gap.size
  scroll_eq : after.scroll = before.scroll
  cursor_le : after.buffer.gap.start ≤ after.buffer.length

/-- An editor that has taken one byte at its cursor. -/
structure Extended (before after : Editor) : Prop where
  front_eq :
    ∃ byte : UInt8, after.buffer.front = before.buffer.front ++ [byte]
  back_eq : after.buffer.back = before.buffer.back
  scroll_eq : after.scroll = before.scroll

end Editor

/-- What an effect makes of an editor. -/
def Effect.Makes
    (before after : Editor) :
    Effect → Prop
  | .leaves => after = before
  | .moves => before.Moved after
  | .inserts => before.Extended after

namespace Editor

variable
    {editor : Editor}
    {document : Document}
    {event : Event}

/-- An event that leaves the text leaves the whole editor. -/
theorem handle_of_leaves
    (pageRows : Nat)
    (leaves : event.effect = .leaves) :
    editor.handle event pageRows = .ok (event.flow, editor) := by
  rcases Event.effect_eq_leaves_iff.mp leaves with ignored | rfl
  · rw [handle, Event.flow, ignored]
    rfl
  · rfl

/-- An event that moves the cursor leaves the text and its storage. -/
theorem Edits.handle_of_moves
    (edits : editor.Edits document)
    (pageRows : Nat)
    (moves : event.effect = .moves) :
    ∃ next : Editor,
      editor.handle event pageRows = .ok (event.flow, next) ∧
        editor.Moved next := by
  have nothing : event.inserted = [] :=
    Event.inserted_of_ne (by rw [moves]; nofun)
  have room :
      editor.buffer.occupancy.insert? event.inserted.length =
        some editor.buffer.occupancy := by
    rw [nothing]
    rfl
  rcases edits.handle_of_room pageRows room with
    ⟨buffer, handled, occupancyEq, nextEdits⟩
  have holds := nextEdits.holds
  have capacityEq : buffer.capacity = editor.buffer.capacity :=
    congrArg Occupancy.capacity occupancyEq
  refine ⟨{ editor with buffer }, handled, ?_, capacityEq, ?_, rfl, ?_⟩
  · rw [holds.bytes_eq, edits.holds.bytes_eq, Document.bytes_handle,
      nothing, List.append_nil, Document.before_append_after]
  · rw [← holds.layout.free_eq, occupancyEq, edits.holds.layout.free_eq]
  · rw [holds.layout.start_eq, holds.length_before, holds.length_eq]
    exact holds.inside

/-- An event that inserts puts one byte in, unless the storage is too large. -/
theorem Edits.handle_of_inserts
    (edits : editor.Edits document)
    (pageRows : Nat)
    (inserts : event.effect = .inserts) :
    if editor.buffer.gap.size ≤ 1 ∧
        1 <<< 62 ≤ editor.buffer.capacity then
      editor.handle event pageRows = .error .capacityOverflow
    else
      ∃ next : Editor,
        editor.handle event pageRows = .ok (event.flow, next) ∧
          editor.Extended next := by
  rcases Event.exists_inserted inserts with ⟨byte, single⟩
  have refused :
      editor.buffer.occupancy.insert? event.inserted.length = none ↔
        editor.buffer.gap.size ≤ 1 ∧
          1 <<< 62 ≤ editor.buffer.capacity := by
    rw [single]
    exact edits.holds.insert?_one_eq_none_iff
  split
  · next crowded =>
    exact edits.handle_of_crowded pageRows (refused.mpr crowded)
  · next free =>
    have admitted := mt refused.mp free
    rcases Option.ne_none_iff_exists'.mp admitted with ⟨occupancy, room⟩
    rcases edits.handle_of_room pageRows room with
      ⟨buffer, handled, -, nextEdits⟩
    rw [document.handle_of_inserts pageRows inserts] at nextEdits
    have holds := nextEdits.holds
    refine ⟨{ editor with buffer }, handled, ⟨byte, ?_⟩, ?_, rfl⟩
    · rw [holds.front_eq, edits.holds.front_eq,
        Document.before_insert edits.holds.inside, single]
    · rw [holds.back_eq, edits.holds.back_eq,
        Document.after_insert edits.holds.inside]

/--
No event damages a text.  An event that asks for no action, or to quit, leaves
the editor as it is; a motion moves the gap and nothing else; and an insertion
puts one byte in before the cursor.  Only control with one letter is answered by
quitting, and only an insertion can fail, when half the largest storage is full.
So a text is found in every later text, and it is as long as the number of events
that have inserted.
-/
theorem events_keep_text
    (capacity : Nat)
    (uses : List EditorUse)
    {editor : Editor}
    (reached : (do (← withCapacity capacity).useAll uses) = .ok editor) :
    (∀ (event : Event) (pageRows : Nat),
      (event.effect = .leaves ↔
        Action.ofEvent? event = none ∨
          event = .key ⟨.char 'Q', .controlOnly⟩) ∧
      if event.effect = .inserts ∧ editor.buffer.gap.size ≤ 1 ∧
          1 <<< 62 ≤ editor.buffer.capacity then
        editor.handle event pageRows = .error .capacityOverflow
      else
        ∃ (flow : Flow) (next : Editor),
          editor.handle event pageRows = .ok (flow, next) ∧
            (flow = .quits ↔ event = .key ⟨.char 'Q', .controlOnly⟩) ∧
            event.effect.Makes editor next) ∧
      (∀ (later : List EditorUse) (last : Editor),
        editor.useAll later = .ok last →
          editor.buffer.bytes.Sublist last.buffer.bytes) ∧
      editor.buffer.length = uses.countP (·.inserts) := by
  have edits := edits_of_uses capacity uses reached
  refine ⟨?_, ?_, ?_⟩
  · intro event pageRows
    refine ⟨Event.effect_eq_leaves_iff, ?_⟩
    cases effect : event.effect with
    | leaves =>
      rw [if_neg (by nofun)]
      exact
        ⟨_, editor, handle_of_leaves pageRows effect,
          Event.flow_eq_quits_iff, rfl⟩
    | moves =>
      rw [if_neg (by nofun)]
      rcases edits.handle_of_moves pageRows effect with
        ⟨next, handled, moved⟩
      exact ⟨_, next, handled, Event.flow_eq_quits_iff, moved⟩
    | inserts =>
      have handled := edits.handle_of_inserts pageRows effect
      split
      · next crowded => rwa [if_pos crowded.2] at handled
      · next room =>
        rw [if_neg fun crowded => room ⟨rfl, crowded⟩] at handled
        rcases handled with ⟨next, answered, extended⟩
        exact ⟨_, next, answered, Event.flow_eq_quits_iff, extended⟩
  · intro later last used
    rw [edits.holds.bytes_eq, (edits.useAll later used).holds.bytes_eq]
    exact Document.sublist_useAll _ later
  · rw [edits.holds.length_eq, Document.length_useAll]
    exact Nat.zero_add _

/-- A letter that fills the gap before a row, a motion and an unknown key. -/
theorem events_keep_rows :
    let uses : List EditorUse :=
      [.event (.plain (.char 'a')) 3, .event (.plain .enter) 3, .scroll 1,
        .event (.plain (.char 'b')) 3, .event (.plain .up) 3]
    let editor : Editor :=
      { buffer := ⟨#[97, 0, 10, 98], { start := 1, stop := 2 }⟩
        scroll := 1 }
    (do (← withCapacity 1).useAll uses) = .ok editor ∧
      editor.buffer.length = 3 ∧
      (∃ (flow : Flow) (next last : Editor),
        editor.handle (.plain (.char 'X')) 3 = .ok (flow, next) ∧
          editor.Extended next ∧
          editor.useAll
              [.event (.plain (.char 'X')) 3, .event (.plain .down) 3] =
            .ok last ∧
          editor.buffer.bytes.Sublist last.buffer.bytes) ∧
      (∃ (flow : Flow) (next : Editor),
        editor.handle (.plain .pageDown) 0 = .ok (flow, next) ∧
          editor.Moved next) ∧
      ∃ (flow : Flow) (next : Editor),
        editor.handle .unknown 3 = .ok (flow, next) ∧
          ¬ flow = .quits ∧ next = editor := by
  intro uses editor
  have reached : (do (← withCapacity 1).useAll uses) = .ok editor := by
    decide +kernel
  rcases events_keep_text 1 uses reached with ⟨each, later, length⟩
  rcases (each (.plain (.char 'X')) 3).2 with ⟨flow, next, typed⟩
  rcases (each (.plain .pageDown) 0).2 with ⟨moving, moved, paged⟩
  rcases (each .unknown 3).2 with ⟨still, same, ignored⟩
  have used :
      editor.useAll
          [.event (.plain (.char 'X')) 3, .event (.plain .down) 3] =
        .ok
          { buffer :=
              ⟨#[97, 88, 10, 98, 0, 0, 0, 0], { start := 4, stop := 8 }⟩
            scroll := 1 } := by
    decide +kernel
  exact
    ⟨reached, length,
      ⟨flow, next, _, typed.1, typed.2.2, used, later _ _ used⟩,
      ⟨moving, moved, paged.1, paged.2.2⟩,
      still, same, ignored.1, mt ignored.2.1.mp (by decide), ignored.2.2⟩

end Editor

end TerminalEditor
