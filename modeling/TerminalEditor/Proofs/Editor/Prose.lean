import TerminalEditor.Proofs.Editor.Typing
import TerminalEditor.Proofs.Key.Sent

/-!
# Text that is typed in

A text is typed into an editor as the bytes of its characters, cut anywhere.
Of each character the editor keeps what a text may hold: a printable ASCII
character is kept as it is, an end of a line becomes a newline, and every other
character is dropped.  Nothing else of the text is changed, and nothing that is
typed makes the editor quit.
-/

namespace TerminalEditor

/-- The bytes that are kept of a character that is typed. -/
def keptOf (char : Char) : Bytes :=
  if char = '\r' ∨ char = '\n' then
    [newline]
  else if 0x20 ≤ char.toNat ∧ char.toNat ≤ 0x7e then
    [UInt8.ofNat char.toNat]
  else
    []

/-- The bytes that are kept of a text that is typed. -/
def kept (text : List Char) : Bytes :=
  text.flatMap keptOf

@[simp]
theorem kept_cons
    (first : Char)
    (later : List Char) :
    kept (first :: later) = keptOf first ++ kept later :=
  rfl

/-! ## One character -/

namespace Event

/-- An event that inserts some bytes and does nothing else. -/
structure Inserts
    (event : Event)
    (bytes : Bytes) : Prop where
  inserted_eq : event.inserted = bytes
  flow_eq : event.flow = .goesOn
  handle_eq : ∀ (document : Document) (pageRows : Nat),
    document.handle event pageRows = document.insert bytes

variable {event : Event}

/-- An event that asks for nothing inserts nothing. -/
theorem inserts_of_none
    (ignored : Action.ofEvent? event = none) :
    event.Inserts [] := by
  constructor
  · rw [inserted, ignored]
    rfl
  · rw [flow, ignored]
    rfl
  · intro document pageRows
    rw [Document.handle, ignored, Document.insert_nil]
    rfl

/-- An event that asks for an insertion makes that insertion. -/
theorem inserts_of_insert {char : Char}
    (asked : Action.ofEvent? event = some (.insert char)) :
    event.Inserts (String.utf8EncodeChar char) := by
  constructor
  · rw [inserted, asked]
    rfl
  · rw [flow, asked]
    rfl
  · intro document pageRows
    rw [Document.handle, asked]
    rfl

end Event

namespace Action

variable {char : Char}

/-- With control held, all letters but one are ignored. -/
theorem ofControl?_of_ne
    (other : char ≠ 'Q') :
    ofControl? (.char char) = none := by
  unfold ofControl?
  split
  · contradiction
  · contradiction
  · next same =>
    cases same
    exact absurd rfl other
  · rfl

/-- A character without modifiers is inserted if it is printable. -/
theorem ofEvent?_plain_char (char : Char) :
    ofEvent? (.plain (.char char)) =
      if isPrintable char then some (.insert char) else none :=
  rfl

end Action

namespace Decoder

variable {char : Char}

/-- Control bytes are ignored, but for ends of lines and the one to quit. -/
theorem ofEvent?_of_controlByte? {byte : UInt8} {event : Event}
    (notEnter : byte ≠ 0x0d)
    (notNewline : byte ≠ 0x0a)
    (notQuit : byte ≠ 0x11)
    (known : controlByte? byte = some event) :
    Action.ofEvent? event = none := by
  rw [controlByte?, if_neg notEnter, if_neg notNewline] at known
  split at known
  · cases known
    rfl
  split at known
  · cases known
    rfl
  split at known
  · next letter =>
    cases known
    have small : byte.toNat ≤ 26 := UInt8.le_iff_toNat_le.mp letter.2
    have number :
        (Char.ofNat (byte.toNat + 0x40)).toNat = byte.toNat + 0x40 :=
      Utf8.toNat_ofNat (by omega)
    apply Action.ofControl?_of_ne
    intro same
    have quits : byte.toNat + 0x40 = 'Q'.toNat := by
      rw [← number, same]
    apply notQuit
    apply UInt8.toNat_inj.mp
    exact Nat.add_right_cancel quits
  · cases known

/-- A control character that ends no line and is not to quit is ignored. -/
theorem ofEvent?_of_isControl
    (notEnter : char ≠ '\r')
    (notNewline : char ≠ '\n')
    (notQuit : char ≠ '\x11')
    (control : isControl char = true) :
    Action.ofEvent? (typedEvent char) = none := by
  rw [typedEvent, control]
  -- Only a character of one byte can be a key by itself.
  by_cases ascii : char.toNat ≤ 0x7f
  · have number := Utf8.toNat_ofNat_ascii ascii
    have different : ∀ byte : UInt8,
        char ≠ Utf8.charOf byte → UInt8.ofNat char.toNat ≠ byte := by
      rintro byte other rfl
      apply other
      rw [Utf8.charOf, number, Char.ofNat_toNat]
    rw [if_pos ascii]
    cases known : controlByte? (UInt8.ofNat char.toNat) with
    | none => rfl
    | some event =>
      exact
        ofEvent?_of_controlByte? (different 0x0d notEnter)
          (different 0x0a notNewline) (different 0x11 notQuit) known
  · rw [if_neg ascii]
    rfl

/-- Printable characters are no control characters. -/
theorem isControl_of_printable
    (printable : 0x20 ≤ char.toNat ∧ char.toNat ≤ 0x7e) :
    isControl char = false := by
  rw [isControl, Bool.or_eq_false_iff, decide_eq_false_iff_not,
    Bool.and_eq_false_iff, decide_eq_false_iff_not]
  exact
    ⟨Nat.not_lt.mpr printable.1,
      Or.inl (Nat.not_le.mpr (Nat.lt_succ_of_le printable.2))⟩

/-- A typed character inserts what is kept of it. -/
theorem inserts_typedEvent
    (notQuit : char ≠ '\x11') :
    (typedEvent char).Inserts (keptOf char) := by
  have endsLine :
      Action.ofEvent? (typedEvent char) = some (.insert '\n') →
        (typedEvent char).Inserts [newline] :=
    Event.inserts_of_insert
  by_cases enter : char = '\r'
  · subst enter
    exact endsLine rfl
  by_cases line : char = '\n'
  · subst line
    exact endsLine rfl
  rw [keptOf, if_neg (not_or_intro enter line)]
  split
  · next printable =>
    rw [← Utf8.encodeChar_of_ascii (Nat.le_succ_of_le printable.2)]
    apply Event.inserts_of_insert
    rw [typedEvent_of_shown (isControl_of_printable printable),
      Action.ofEvent?_plain_char, if_pos (isPrintable_iff.mpr printable)]
  · next dropped =>
    apply Event.inserts_of_none
    by_cases control : isControl char = true
    · exact ofEvent?_of_isControl enter line notQuit control
    · rw [Bool.not_eq_true] at control
      rw [typedEvent_of_shown control, Action.ofEvent?_plain_char,
        if_neg (mt isPrintable_iff.mp dropped)]

end Decoder

/-! ## A whole text -/

namespace Editor

/-- The flows of events handled in order, each with the rows of a page. -/
def handleEach
    (editor : Editor) :
    List (Event × Nat) → Checked (List Flow × Editor)
  | [] => return ([], editor)
  | (event, pageRows) :: later => do
    let (flow, next) ← editor.handle event pageRows
    let (flows, last) ← next.handleEach later
    return (flow :: flows, last)

variable
    {editor : Editor}
    {document : Document}

/-- The events of a text insert what is kept of it, if there is room. -/
theorem Edits.handleEach_typed
    (edits : editor.Edits document)
    {text : List Char}
    (notQuit : '\x11' ∉ text)
    {handled : List (Event × Nat)}
    (events : handled.map Prod.fst = text.map Decoder.typedEvent) :
    if (editor.buffer.occupancy.insertAll?
        (text.map fun char => (keptOf char).length)).isSome then
      ∃ last : Editor,
        editor.handleEach handled =
            .ok (handled.map fun _ => .goesOn, last) ∧
          last.buffer.front = editor.buffer.front ++ kept text ∧
          last.buffer.back = editor.buffer.back
    else
      editor.handleEach handled = .error .capacityOverflow := by
  induction text generalizing editor document handled with
  | nil =>
    cases List.map_eq_nil_iff.mp events
    exact ⟨editor, rfl, (List.append_nil _).symm, rfl⟩
  | cons first later ih =>
    rw [List.mem_cons, not_or] at notQuit
    rcases List.map_eq_cons_iff.mp events with
      ⟨⟨event, pageRows⟩, others, rfl, rfl, otherEvents⟩
    have inserts := Decoder.inserts_typedEvent (Ne.symm notQuit.1)
    rw [List.map_cons, Occupancy.insertAll?, ← inserts.inserted_eq,
      handleEach]
    cases room : editor.buffer.occupancy.insert?
        (Decoder.typedEvent first).inserted.length with
    | none =>
      rw [edits.handle_of_crowded pageRows room]
      rfl
    | some admitted =>
      rcases edits.handle_of_room pageRows room with
        ⟨buffer, result, rfl, nextEdits⟩
      rw [inserts.handle_eq] at nextEdits
      have front :
          buffer.front = editor.buffer.front ++ keptOf first := by
        rw [nextEdits.holds.front_eq, edits.holds.front_eq,
          Document.before_insert edits.holds.inside]
      have back : buffer.back = editor.buffer.back := by
        rw [nextEdits.holds.back_eq, edits.holds.back_eq,
          Document.after_insert edits.holds.inside]
      have rest := ih nextEdits notQuit.2 otherEvents
      rw [result, Checked.ok_bind, Option.bind_some, inserts.flow_eq]
      split at rest
      · next fits =>
        rcases rest with ⟨last, answered, lastFront, lastBack⟩
        rw [if_pos fits]
        refine ⟨last, ?_, ?_, lastBack.trans back⟩
        · simp only [answered, Checked.ok_bind]
          rfl
        · rw [lastFront, front, kept_cons, List.append_assoc]
      · next crowded =>
        rw [if_neg crowded]
        simp only [rest, Checked.error_bind]

/--
A text that is typed without the byte of sequences and the one to quit is kept
behind the text before the cursor, however its bytes arrive and however many
rows a page has at each event.  All of it is decoded, the editor goes on after
each event, and the text after the cursor stays.  It fails exactly if the buffer
cannot grow, and to a quarter of the largest storage it always can.
-/
theorem typed_text_kept
    (capacity : Nat)
    (before : List EditorUse)
    (reached :
      (do (← withCapacity capacity).useAll before) = .ok editor)
    {text : List Char}
    (plain : '\x1b' ∉ text ∧ '\x11' ∉ text)
    {uses : List DecoderUse}
    (typed : Decoder.fed uses = Utf8.encode text) :
    ∃ later : List Event,
      (∀ (events : List Event) (after : Decoder),
        Decoder.Drains (Decoder.follow {} uses).2 events after ↔
          events = later ∧ after = {}) ∧
      (∀ handled : List (Event × Nat),
        handled.map Prod.fst = (Decoder.follow {} uses).1 ++ later →
          if (editor.buffer.occupancy.insertAll?
              (text.map fun char => (keptOf char).length)).isSome then
            ∃ last : Editor,
              editor.handleEach handled =
                  .ok (handled.map fun _ => .goesOn, last) ∧
                last.buffer.front = editor.buffer.front ++ kept text ∧
                last.buffer.back = editor.buffer.back
          else
            editor.handleEach handled = .error .capacityOverflow) ∧
      (editor.buffer.length + (kept text).length ≤
          Capacity.storageLimit / 4 →
        (editor.buffer.occupancy.insertAll?
          (text.map fun char => (keptOf char).length)).isSome) := by
  rcases exists_edits_of_uses capacity before reached with
    ⟨document, edits⟩
  have whole :
      Decoder.drain (Decoder.fed uses) =
        (text.map Decoder.typedEvent, []) := by
    rw [typed, Decoder.drain_encode plain.1]
  rcases Decoder.exists_drains whole with ⟨later, drains, completed⟩
  refine ⟨later, drains, ?_, ?_⟩
  · intro handled events
    rw [completed] at events
    exact edits.handleEach_typed plain.2 events
  · intro short
    rw [kept, List.flatMap_def] at short
    have fits :
        (editor.buffer.occupancy.insertAll?
          ((text.map keptOf).map (·.length))).isSome :=
      Occupancy.isSome_insertAll? _ short
    rwa [List.map_map] at fits

/-- Ends of lines and dropped characters, cut inside one that is dropped. -/
theorem typed_lines_kept :
    let text := ['é', '\t', 'X', '\r', '\n', '~', '\x7f']
    let uses : List DecoderUse :=
      [.feed [0xc3], .poll, .feed [0xa9, 0x09, 0x58, 0x0d], .poll,
        .feed [0x0a, 0x7e, 0x7f]]
    let handled : List (Event × Nat) :=
      [(.plain (.char 'é'), 5), (.plain .tab, 0),
        (.plain (.char 'X'), 1), (.plain .enter, 5),
        (.plain .newline, 2), (.plain (.char '~'), 0),
        (.plain .backspace, 9)]
    ∃ editor last : Editor,
      (do
          (← withCapacity 1).useAll
            [.event (.plain (.char 'a')) 3,
              .event (.plain (.char 'b')) 3, .scroll 2,
              .event (.plain .left) 3]) =
          .ok editor ∧
        ('\x1b' ∉ text ∧ '\x11' ∉ text) ∧
        Decoder.fed uses = Utf8.encode text ∧
        editor.handleEach handled =
          .ok (List.replicate 7 .goesOn, last) ∧
        last.buffer.front = [97, 88, 10, 10, 126] ∧
        last.buffer.back = [98] := by
  intro text uses handled
  have reached :
      (do
        (← withCapacity 1).useAll
          [.event (.plain (.char 'a')) 3,
            .event (.plain (.char 'b')) 3, .scroll 2,
            .event (.plain .left) 3]) =
        .ok
          { buffer :=
              ⟨#[97, 0, 0, 98], { start := 1, stop := 3 }⟩ } := by
    decide +kernel
  have plain : '\x1b' ∉ text ∧ '\x11' ∉ text := by
    decide
  have typed : Decoder.fed uses = Utf8.encode text :=
    rfl
  rcases typed_text_kept 1 _ reached plain typed with
    ⟨later, drains, kept, fits⟩
  have drained :
      Decoder.Drains (Decoder.follow {} uses).2
        ((handled.map Prod.fst).drop 1) {} :=
    .event rfl <| .event rfl <| .event rfl <| .event rfl <|
      .event rfl <| .event rfl <| .done rfl
  rcases (drains _ _).mp drained with ⟨rfl, -⟩
  have answers := kept handled (by decide +kernel)
  rw [if_pos (fits (by decide))] at answers
  rcases answers with ⟨last, answered, front, back⟩
  exact ⟨_, last, reached, plain, typed, answered, front, back⟩

end Editor

end TerminalEditor
