import TerminalEditor.Editor.Basic
import TerminalEditor.Proofs.Buffer.Refinement
import TerminalEditor.Proofs.Text.Ascii

/-!
# What can be typed into an editor

An editor is used by events, each with some number of rows to a page, and by
scrolling to its cursor.  Only printable ASCII characters and newlines are ever
inserted, so the text of every editor that is reached consists of these.
-/

namespace TerminalEditor

/-- One use of an editor. -/
inductive EditorUse
  | event (event : Event) (pageRows : Nat)
  | scroll (rows : Nat)
  deriving DecidableEq, Repr

namespace Editor

/-- The editor after one use. -/
def use
    (editor : Editor) :
    EditorUse → Checked Editor
  | .event event pageRows => return (← editor.handle event pageRows).2
  | .scroll rows => return editor.scrollToCursor rows

/-- The editor after some uses, one after the other. -/
def useAll
    (editor : Editor) :
    List EditorUse → Checked Editor
  | [] => return editor
  | first :: later => do (← editor.use first).useAll later

end Editor

/-- A text of printable ASCII characters and newlines. -/
def IsTypedText (bytes : Bytes) : Prop :=
  ∀ byte ∈ bytes,
    byte = newline ∨ 0x20 ≤ byte.toNat ∧ byte.toNat ≤ 0x7e

/-- Typed text is ASCII. -/
theorem IsTypedText.isAscii {bytes : Bytes}
    (typed : IsTypedText bytes) :
    ∀ byte ∈ bytes, byte.toNat ≤ 0x7f := by
  intro byte member
  rcases typed byte member with rfl | printable
  · decide
  · omega

namespace Action

/-- No key with control held asks for an insertion. -/
theorem ofControl?_ne_insert
    (code : KeyCode)
    (char : Char) :
    ofControl? code ≠ some (.insert char) := by
  unfold ofControl?
  split <;> nofun

/-- A key that is no character inserts at most a newline. -/
theorem newline_of_ofPlain? {code : KeyCode} {char : Char}
    (asked : ofPlain? code = some (.insert char)) :
    char = '\n' := by
  unfold ofPlain? at asked
  split at asked <;> cases asked <;> rfl

/-- Only printable characters and newlines are asked to be inserted. -/
theorem insert_of_ofEvent? {event : Event} {char : Char}
    (asked : ofEvent? event = some (.insert char)) :
    char = '\n' ∨ isPrintable char = true := by
  cases event with
  | unknown => cases asked
  | key key =>
    rw [ofEvent?, ofKey?] at asked
    split at asked
    · next typed _ =>
      split at asked
      · split at asked
        · next printable =>
          cases asked
          exact Or.inr printable
        · cases asked
      · split at asked
        · exact absurd asked (ofControl?_ne_insert _ char)
        · cases asked
    · split at asked
      · exact Or.inl (newline_of_ofPlain? asked)
      · split at asked
        · exact absurd asked (ofControl?_ne_insert _ char)
        · cases asked

/-- With control held, one letter asks to quit. -/
theorem char_of_ofControl?_quit {code : KeyCode}
    (asked : ofControl? code = some .quit) :
    code = .char 'Q' := by
  unfold ofControl? at asked
  split at asked <;> cases asked
  rfl

/-- Without modifiers, no key asks to quit. -/
theorem ofPlain?_ne_quit (code : KeyCode) :
    ofPlain? code ≠ some .quit := by
  unfold ofPlain?
  split <;> nofun

/-- Control with one letter is the only key that asks to quit. -/
theorem ofEvent?_eq_quit_iff {event : Event} :
    ofEvent? event = some .quit ↔
      event = .key ⟨.char 'Q', .controlOnly⟩ := by
  constructor
  · intro asked
    cases event with
    | unknown => cases asked
    | key key =>
      rcases key with ⟨code, modifiers⟩
      have controlled :
          modifiers = .controlOnly →
            ofControl? code = some .quit →
              Event.key ⟨code, modifiers⟩ =
                .key ⟨.char 'Q', .controlOnly⟩ := by
        rintro rfl quits
        rw [char_of_ofControl?_quit quits]
      simp only [ofEvent?, ofKey?] at asked
      split at asked
      · split at asked
        · split at asked <;> cases asked
        · split at asked
          · next only => exact controlled only asked
          · cases asked
      · split at asked
        · exact absurd asked (ofPlain?_ne_quit code)
        · split at asked
          · next only => exact controlled only asked
          · cases asked
  · rintro rfl
    rfl

/-- The bytes that an action puts into a text. -/
def inserted : Action → Bytes
  | .insert char => String.utf8EncodeChar char
  | _ => []

end Action

/-- Texts of at most one byte have no more bytes than there are texts. -/
theorem length_flatten_le {texts : List Bytes}
    (short : ∀ text ∈ texts, text.length ≤ 1) :
    texts.flatten.length ≤ texts.length := by
  induction texts with
  | nil => exact Nat.le_refl 0
  | cons text later ih =>
    rw [List.forall_mem_cons] at short
    rw [List.flatten_cons, List.length_append, List.length_cons,
      Nat.add_comm]
    exact Nat.add_le_add (ih short.2) short.1

namespace Event

/-- The bytes that an event puts into a text. -/
def inserted (event : Event) : Bytes :=
  (Action.ofEvent? event).elim [] Action.inserted

/-- Whether an editor goes on after an event. -/
def flow (event : Event) : Flow :=
  if Action.ofEvent? event = some .quit then .quits else .goesOn

/-- A character that is inserted is one byte. -/
theorem inserted_of_insert {event : Event} {char : Char}
    (asked : Action.ofEvent? event = some (.insert char)) :
    event.inserted = [UInt8.ofNat char.toNat] := by
  have ascii : char.toNat ≤ 0x7f := by
    rcases Action.insert_of_ofEvent? asked with rfl | printable
    · decide
    · exact Nat.le_succ_of_le (isPrintable_iff.mp printable).2
  rw [inserted, asked, Option.elim_some, Action.inserted,
    Utf8.encodeChar_of_ascii ascii]

/-- No event inserts more than one byte. -/
theorem length_inserted_le (event : Event) :
    event.inserted.length ≤ 1 := by
  cases asked : Action.ofEvent? event with
  | none =>
    rw [inserted, asked]
    exact Nat.zero_le 1
  | some action =>
    cases action with
    | insert char =>
      rw [inserted_of_insert asked]
      exact Nat.le_refl 1
    | _ =>
      rw [inserted, asked]
      exact Nat.zero_le 1

/-- Events insert no more bytes than there are events. -/
theorem length_flatten_inserted_le (events : List Event) :
    (events.map inserted).flatten.length ≤ events.length := by
  have single : ∀ text ∈ events.map inserted, text.length ≤ 1 := by
    intro text member
    rcases List.mem_map.mp member with ⟨event, -, rfl⟩
    exact event.length_inserted_le
  have short := length_flatten_le single
  rwa [List.length_map] at short

end Event

namespace Document

/-- The document after an action. -/
def act
    (document : Document)
    (pageRows : Nat) :
    Action → Document
  | .insert char => document.insert (String.utf8EncodeChar char)
  | .move motion => document.navigate motion
  | .pageUp => document.navigate (.pageUp (max pageRows 1))
  | .pageDown => document.navigate (.pageDown (max pageRows 1))
  | .quit => document

/-- The document after an event, where a page key moves by `pageRows` rows. -/
def handle
    (document : Document)
    (event : Event)
    (pageRows : Nat) :
    Document :=
  (Action.ofEvent? event).elim document (document.act pageRows)

/-- The document after one use of an editor of it. -/
def use (document : Document) : EditorUse → Document
  | .event event pageRows => document.handle event pageRows
  | .scroll _ => document

/-- The document after some uses, one after the other. -/
def useAll
    (document : Document)
    (uses : List EditorUse) :
    Document :=
  uses.foldl use document

variable {document : Document}

/-- A typed character keeps the text typed. -/
theorem isTypedText_insert {char : Char}
    (typed : IsTypedText document.bytes)
    (typable : char = '\n' ∨ isPrintable char = true) :
    IsTypedText
      (document.insert (String.utf8EncodeChar char)).bytes := by
  have encoded :
      ∀ byte ∈ String.utf8EncodeChar char,
        byte = newline ∨ 0x20 ≤ byte.toNat ∧ byte.toNat ≤ 0x7e := by
    rcases typable with rfl | printable
    · intro byte member
      exact Or.inl (List.mem_singleton.mp member)
    · rcases isPrintable_iff.mp printable with ⟨low, high⟩
      rw [Utf8.encodeChar_of_ascii (Nat.le_succ_of_le high)]
      intro byte member
      rw [List.mem_singleton.mp member, UInt8.toNat_ofNat']
      omega
  intro byte member
  rcases List.mem_append.mp member with others | behind
  · rcases List.mem_append.mp others with ahead | inserted
    · exact typed byte (List.mem_of_mem_take ahead)
    · exact encoded byte inserted
  · exact typed byte (List.mem_of_mem_drop behind)

end Document

namespace Editor

/-- An editor whose buffer holds a text that can be typed. -/
structure Edits
    (editor : Editor)
    (document : Document) : Prop where
  holds : editor.buffer.Holds document
  typed : IsTypedText document.bytes

variable
    {editor next : Editor}
    {document : Document}

/-- A move of the cursor leaves the text and the room for it. -/
theorem Edits.navigate
    (edits : editor.Edits document)
    (motion : Motion) :
    ∃ buffer : GapBuffer,
      editor.buffer.navigate motion = .ok buffer ∧
        buffer.occupancy = editor.buffer.occupancy ∧
        ({ editor with buffer } : Editor).Edits
          (document.navigate motion) := by
  have sameBytes := Document.bytes_navigate document motion
  rcases GapBuffer.movesTo_navigate edits.holds motion with
    ⟨moved, navigated, capacityEq, movedHolds⟩
  refine ⟨moved, navigated, ?_, movedHolds, ?_⟩
  · exact edits.holds.occupancy_eq movedHolds capacityEq sameBytes
  · rw [sameBytes]
    exact edits.typed

/-- An action that has room is the action on the document. -/
theorem Edits.act_of_room
    {action : Action}
    {next : Occupancy}
    (edits : editor.Edits document)
    (pageRows : Nat)
    (typable :
      ∀ char : Char,
        action = .insert char → char = '\n' ∨ isPrintable char = true)
    (room :
      editor.buffer.occupancy.insert? action.inserted.length =
        some next) :
    ∃ buffer : GapBuffer,
      Editor.act editor.buffer pageRows action = .ok buffer ∧
        buffer.occupancy = next ∧
        ({ editor with buffer } : Editor).Edits
          (document.act pageRows action) := by
  cases action with
  | insert char =>
    rcases GapBuffer.holds_insert edits.holds room with
      ⟨result, inserted, occupancyEq, resultHolds⟩
    exact
      ⟨result, inserted, occupancyEq, resultHolds,
        Document.isTypedText_insert edits.typed (typable char rfl)⟩
  | move motion =>
    cases room
    exact edits.navigate motion
  | pageUp =>
    cases room
    exact edits.navigate (.pageUp (max pageRows 1))
  | pageDown =>
    cases room
    exact edits.navigate (.pageDown (max pageRows 1))
  | quit =>
    cases room
    exact ⟨editor.buffer, rfl, rfl, edits⟩

/-- An action without room overflows. -/
theorem Edits.act_of_crowded {action : Action}
    (edits : editor.Edits document)
    (pageRows : Nat)
    (refused :
      editor.buffer.occupancy.insert? action.inserted.length = none) :
    Editor.act editor.buffer pageRows action =
      .error .capacityOverflow := by
  cases action with
  | insert char => exact GapBuffer.insert_of_none edits.holds refused
  | move motion => cases refused
  | pageUp => cases refused
  | pageDown => cases refused
  | quit => cases refused

/-- An event that asks for an action is that action on the buffer. -/
theorem handle_of_action {event : Event} {action : Action}
    (pageRows : Nat)
    (asked : Action.ofEvent? event = some action) :
    editor.handle event pageRows = do
      let buffer ← Editor.act editor.buffer pageRows action
      return (event.flow, { editor with buffer }) := by
  rw [handle, Event.flow, asked]
  cases action with
  | quit => rfl
  | _ => rw [if_neg (by nofun)]

/-- Whether an editor goes on is told by the event. -/
theorem flow_of_handle
    {next : Editor}
    {event : Event}
    {pageRows : Nat}
    {flow : Flow}
    (handled : editor.handle event pageRows = .ok (flow, next)) :
    flow = event.flow := by
  cases asked : Action.ofEvent? event with
  | none =>
    rw [handle, asked] at handled
    cases handled
    rw [Event.flow, asked]
    rfl
  | some action =>
    rw [handle_of_action pageRows asked] at handled
    rcases Checked.exists_of_bind_eq_ok handled with ⟨buffer, acted, same⟩
    cases same
    rfl

/-- An event that has room is handled as the document handles it. -/
theorem Edits.handle_of_room
    {event : Event}
    {next : Occupancy}
    (edits : editor.Edits document)
    (pageRows : Nat)
    (room :
      editor.buffer.occupancy.insert? event.inserted.length =
        some next) :
    ∃ buffer : GapBuffer,
      editor.handle event pageRows =
          .ok (event.flow, { editor with buffer }) ∧
        buffer.occupancy = next ∧
        ({ editor with buffer } : Editor).Edits
          (document.handle event pageRows) := by
  cases asked : Action.ofEvent? event with
  | none =>
    rw [Event.inserted, asked] at room
    cases room
    refine ⟨editor.buffer, ?_, rfl, ?_⟩
    · rw [handle, Event.flow, asked]
      rfl
    · rw [Document.handle, asked]
      exact edits
  | some action =>
    rw [Event.inserted, asked] at room
    have typable :
        ∀ char : Char,
          action = .insert char → char = '\n' ∨ isPrintable char = true := by
      rintro char rfl
      exact Action.insert_of_ofEvent? asked
    rcases edits.act_of_room pageRows typable room with
      ⟨buffer, acted, occupancyEq, actedEdits⟩
    refine ⟨buffer, ?_, occupancyEq, ?_⟩
    · rw [handle_of_action pageRows asked, acted]
      rfl
    · rw [Document.handle, asked]
      exact actedEdits

/-- An event without room overflows. -/
theorem Edits.handle_of_crowded {event : Event}
    (edits : editor.Edits document)
    (pageRows : Nat)
    (refused :
      editor.buffer.occupancy.insert? event.inserted.length = none) :
    editor.handle event pageRows = .error .capacityOverflow := by
  cases asked : Action.ofEvent? event with
  | none =>
    rw [Event.inserted, asked] at refused
    cases refused
  | some action =>
    rw [Event.inserted, asked] at refused
    rw [handle_of_action pageRows asked,
      edits.act_of_crowded pageRows refused]
    rfl

/-- One use of an editor is the use of its document. -/
theorem Edits.use
    (edits : editor.Edits document)
    (use : EditorUse)
    (used : editor.use use = .ok next) :
    next.Edits (document.use use) := by
  cases use with
  | scroll rows =>
    cases used
    exact ⟨edits.holds, edits.typed⟩
  | event event pageRows =>
    rcases Checked.exists_of_bind_eq_ok used with
      ⟨handled, answered, same⟩
    cases same
    cases room :
        editor.buffer.occupancy.insert? event.inserted.length with
    | none =>
      rw [edits.handle_of_crowded pageRows room] at answered
      cases answered
    | some admitted =>
      rcases edits.handle_of_room pageRows room with
        ⟨buffer, result, -, resultEdits⟩
      rw [result] at answered
      cases answered
      exact resultEdits

/-- Uses of an editor one after the other are those of its document. -/
theorem Edits.useAll
    (edits : editor.Edits document)
    (uses : List EditorUse)
    (used : editor.useAll uses = .ok next) :
    next.Edits (document.useAll uses) := by
  induction uses generalizing editor document with
  | nil =>
    cases used
    exact edits
  | cons first later ih =>
    rcases Checked.exists_of_bind_eq_ok used with ⟨middle, step, rest⟩
    exact ih (edits.use first step) rest

/-- A new editor has the empty text in view from its first row. -/
theorem edits_of_withCapacity
    {capacity : Nat}
    (created : withCapacity capacity = .ok editor) :
    editor.buffer.occupancy = ⟨capacity, 0⟩ ∧
      editor.scroll = 0 ∧ editor.Edits ⟨[], 0⟩ := by
  rcases Checked.exists_of_bind_eq_ok created with
    ⟨buffer, allocated, same⟩
  cases same
  rcases GapBuffer.holds_of_withCapacity allocated with
    ⟨occupancyEq, holds⟩
  exact ⟨occupancyEq, rfl, holds, nofun⟩

/-- A new editor that was used holds what the uses make of the empty text. -/
theorem edits_of_uses
    (capacity : Nat)
    (uses : List EditorUse)
    (reached : (do (← withCapacity capacity).useAll uses) = .ok editor) :
    editor.Edits (Document.useAll ⟨[], 0⟩ uses) := by
  rcases Checked.exists_of_bind_eq_ok reached with
    ⟨first, created, used⟩
  exact (edits_of_withCapacity created).2.2.useAll uses used

/-- Whatever a new editor was used for, its text can be typed. -/
theorem exists_edits_of_uses
    (capacity : Nat)
    (uses : List EditorUse)
    (reached : (do (← withCapacity capacity).useAll uses) = .ok editor) :
    ∃ document : Document, editor.Edits document :=
  ⟨_, edits_of_uses capacity uses reached⟩

end Editor

end TerminalEditor
