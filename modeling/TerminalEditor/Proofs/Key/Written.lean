import TerminalEditor.Key.Grammar
import TerminalEditor.Proofs.Key.Sent

/-!
# Exactly the written keys are decoded

A decoder takes some bytes as one key and leaves none of them exactly if they
are a form in which that key may be written.  So whatever a terminal sends in
another form is never taken for a key, and the forms in which terminals do send
keys are among those that are read.
-/

namespace TerminalEditor.Decoder

open Utf8 Key

variable
    {bytes : Bytes}
    {key : Key}
    {code : KeyCode}
    {modifiers : Modifiers}

/-! ## Numbers and modifiers -/

/-- The characters of a numeral are ASCII. -/
theorem isAscii_of_denotes
    {text : List Char}
    {value : Nat}
    (denotes : Numeral.Denotes text value) :
    IsAscii text := by
  have digit : ∀ char : Char, char.isDigit = true → char.toNat ≤ 0x7f := by
    intro char isDigit
    exact Nat.le_trans (Char.isDigit_iff_toNat.mp isDigit).2 (by decide)
  cases denotes with
  | digits digits present decimal =>
    exact fun char member => digit char (decimal char member)
  | signed digits present decimal =>
    intro char member
    rcases List.mem_cons.mp member with rfl | later
    · decide
    · exact digit char (decimal char later)

/-- A field is read as a number exactly if it is one. -/
theorem parameter?_eq_some_iff
    {field : Bytes}
    {value : Nat} :
    parameter? field = some value ↔ IsNumber field value := by
  have read :
      parameter? field = some value ↔
        Numeral.read 0xffff (field.map charOf) = .ok value := by
    rw [parameter?]
    change (Numeral.read 0xffff (field.map charOf)).toOption = _ ↔ _
    cases Numeral.read 0xffff (field.map charOf) <;> simp [Except.toOption]
  rw [read, Numeral.read_eq_ok_iff]
  constructor
  · rintro ⟨denotes, small⟩
    exact
      ⟨_, denotes, small,
        (map_charOf_eq_iff (isAscii_of_denotes denotes)).mp rfl⟩
  · rintro ⟨text, denotes, small, written⟩
    rw [(map_charOf_eq_iff (isAscii_of_denotes denotes)).mpr written]
    exact ⟨denotes, small⟩

theorem parameter?_eq_none_iff {field : Bytes} :
    parameter? field = none ↔ ∀ value : Nat, ¬ IsNumber field value := by
  rw [Option.eq_none_iff_forall_ne_some]
  exact forall_congr' fun _ => not_congr parameter?_eq_some_iff

/-- The modifiers are the ones that the fields after the first one tell. -/
theorem modifiersOf_eq_iff
    (first : Bytes)
    (later : List Bytes) :
    modifiersOf ((first :: later).map parameter?) = modifiers ↔
      TellModifiers later modifiers := by
  constructor
  · rintro rfl
    cases later with
    | nil => exact .missing
    | cons second others =>
      cases read : parameter? second with
      | none =>
        simp only [List.map_cons, read]
        exact .other second others (parameter?_eq_none_iff.mp read)
      | some value =>
        have number := parameter?_eq_some_iff.mp read
        simp only [List.map_cons, read]
        cases value with
        | zero => exact .zero second others number
        | succ value =>
          rcases Modifiers.ofBits_eq_iff.mp rfl with ⟨further, split⟩
          exact .bits second others _ further (split ▸ number)
  · intro tell
    cases tell with
    | bits second others modifiers further number =>
      simp only [List.map_cons, parameter?_eq_some_iff.mpr number]
      exact Modifiers.ofBits_eq_iff.mpr ⟨further, rfl⟩
    | zero second others number =>
      simp only [List.map_cons, parameter?_eq_some_iff.mpr number]
      rfl
    | other second others noNumber =>
      simp only [List.map_cons, parameter?_eq_none_iff.mpr noNumber]
      rfl
    | missing => rfl

/-! ## Control sequences -/

/-- A parameter byte is in a field, or it is a separator. -/
theorem isParameter_of_mem_intercalate
    {first : Bytes}
    {later : List Bytes}
    (proper : ∀ field ∈ first :: later, IsField field) :
    ∀ byte ∈ [0x3b].intercalate (first :: later),
      isParameter byte = true := by
  intro byte member
  rw [Text.intercalate_cons] at member
  have inner : ∀ field ∈ first :: later, byte ∈ field →
      isParameter byte = true := by
    intro field among inside
    have range := proper field among byte inside
    exact isParameter_iff.mpr ⟨range.1, range.2.1⟩
  rcases List.mem_append.mp member with inside | others
  · exact inner first List.mem_cons_self inside
  · rcases List.mem_flatMap.mp others with ⟨field, among, inside⟩
    rcases List.mem_cons.mp inside with rfl | inside
    · rfl
    · exact inner field (List.mem_cons_of_mem first among) inside

/-- The fields of parameter bytes are fields of a control sequence. -/
theorem isField_of_mem_fields
    {field parameters : Bytes}
    (inner : ∀ byte ∈ parameters, isParameter byte = true)
    (member : field ∈ Text.fields 0x3b parameters) :
    IsField field := by
  intro byte inside
  have range :=
    isParameter_iff.mp (inner byte (Text.mem_of_mem_fields member inside))
  refine ⟨range.1, range.2, ?_⟩
  rintro rfl
  exact Text.not_mem_of_mem_fields parameters member inside

/-- A control sequence that is read as a key is written as it. -/
theorem writtenAs_of_controlEvent
    {parameters : Bytes}
    {final : UInt8}
    (event : controlEvent parameters final = .key key) :
    WrittenAs key (controlSequence parameters final) := by
  rcases controlEvent_eq_key_iff.mp event with ⟨inner, named, held⟩
  cases found : Text.fields 0x3b parameters with
  | nil => exact absurd found (Text.fields_ne_nil _ _)
  | cons first later =>
    have whole := (Text.fields_eq_iff.mp found).1
    have proper : ∀ field ∈ first :: later, IsField field := by
      intro field member
      rw [← found] at member
      exact isField_of_mem_fields inner member
    rw [found] at named held
    have tell := (modifiersOf_eq_iff first later).mp held.symm
    rcases key with ⟨code, modifiers⟩
    rw [whole]
    rcases named with lettered | ⟨rfl, number, numbered, read⟩
    · exact .lettered code final modifiers first later proper lettered tell
    · have isNumber := parameter?_eq_some_iff.mp (Option.some.inj read)
      exact
        .numbered code number modifiers first later proper isNumber
          numbered tell

/-- The fields and the last byte of a sequence are read as a key. -/
theorem decode_fieldSequence
    {first : Bytes}
    {later : List Bytes}
    {final : UInt8}
    (proper : ∀ field ∈ first :: later, IsField field)
    (ends : isFinal final = true)
    (named :
      code.letter? = some final ∨
        final = 0x7e ∧ ∃ number ∈ code.numbers, IsNumber first number)
    (tell : TellModifiers later modifiers) :
    decode (fieldSequence (first :: later) final) =
      some (.key ⟨code, modifiers⟩, []) := by
  have inner := isParameter_of_mem_intercalate proper
  have parted :
      Text.fields 0x3b ([0x3b].intercalate (first :: later)) =
        first :: later :=
    Text.fields_eq_iff.mpr
      ⟨rfl, fun field member inside =>
        (proper field member 0x3b inside).2.2 rfl⟩
  have event :
      controlEvent ([0x3b].intercalate (first :: later)) final =
        .key ⟨code, modifiers⟩ := by
    rw [controlEvent_eq_key_iff, parted]
    refine ⟨inner, ?_, ((modifiersOf_eq_iff first later).mpr tell).symm⟩
    rcases named with lettered | ⟨tilde, number, numbered, isNumber⟩
    · exact Or.inl lettered
    · refine Or.inr ⟨tilde, number, numbered, ?_⟩
      rw [List.map_cons, List.head?_cons, parameter?_eq_some_iff.mpr isNumber]
  have decoded := decode_controlSequence inner ends []
  rwa [List.append_nil, event] at decoded

/-! ## Other forms -/

/-- A byte that is read as a key is written as that key. -/
theorem writtenAs_of_controlByte
    {byte : UInt8}
    (known : controlByte? byte = some (.key key)) :
    WrittenAs key [byte] := by
  unfold controlByte? at known
  split at known
  · next same =>
    cases known
    rw [same]
    exact .enter
  next noEnter =>
  split at known
  · next same =>
    cases known
    rw [same]
    exact .newline
  next noNewline =>
  split at known
  · next same =>
    cases known
    rw [same]
    exact .tab
  next noTab =>
  split at known
  · next same =>
    cases known
    rcases same with rfl | rfl
    · exact .delete
    · exact .backspace
  next noBackspace =>
  split at known
  · next range =>
    cases known
    rw [not_or] at noBackspace
    have free : byte ∉ [0x08, 0x09, 0x0a, 0x0d] := by
      simp [noEnter, noNewline, noTab, noBackspace.2]
    have letter : byte.toNat + 0x40 = 'A'.toNat + byte.toNat - 1 := by
      have first : 'A'.toNat = 0x41 := rfl
      omega
    rw [letter]
    exact .control byte range free
  · cases known

/-- The bytes of a character that is a key are the encoding of it. -/
theorem writtenAs_of_characterEvent
    (event : characterEvent bytes = .key key) :
    WrittenAs key bytes := by
  rw [characterEvent] at event
  split at event
  · next char read =>
    split at event
    · cases event
    · next printed =>
      cases event
      rw [char?_eq_some_iff.mp read]
      exact .character char (Bool.eq_false_of_not_eq_true printed)
  · cases event

theorem writtenAs_of_applicationEvent
    {letter : UInt8}
    (event : applicationEvent letter = .key key) :
    WrittenAs key [escapeByte, 0x4f, letter] := by
  rcases key with ⟨code, modifiers⟩
  rcases applicationEvent_eq_key_iff.mp event with ⟨named, rfl⟩
  exact .application code letter named

/-! ## All forms -/

/-- Bytes that are read as a key are written as that key. -/
theorem writtenAs_of_readAs
    (read : ReadAs bytes (.key key)) :
    WrittenAs key bytes := by
  generalize same : Event.key key = event at read
  cases read with
  | controlByte byte event noEscape known =>
    exact writtenAs_of_controlByte (same ▸ known)
  | stray => cases same
  | character => exact writtenAs_of_characterEvent same.symm
  | control => exact writtenAs_of_controlEvent same.symm
  | application => exact writtenAs_of_applicationEvent same.symm

/-- However a key is written, its bytes are decoded as that key. -/
theorem decode_writtenAs
    (written : WrittenAs key bytes) :
    decode bytes = some (.key key, []) := by
  cases written with
  | enter => rfl
  | newline => rfl
  | tab => rfl
  | backspace => rfl
  | delete => rfl
  | control byte range isFree =>
    have low : 1 ≤ byte.toNat := UInt8.le_iff_toNat_le.mp range.1
    have high : byte.toNat ≤ 26 := UInt8.le_iff_toNat_le.mp range.2
    have plain : byte ≠ escapeByte := by
      rintro rfl
      exact absurd high (by decide)
    have free : byte.toNat ∉ [8, 9, 10, 13] := by
      intro used
      apply isFree
      simpa [← UInt8.toNat_inj] using used
    have letter : 'A'.toNat + byte.toNat - 1 = byte.toNat + 0x40 := by
      have first : 'A'.toNat = 0x41 := rfl
      omega
    rw [decode, if_neg plain, controlByte?_of_letter low high free, letter]
  | character char printed =>
    have typed : char ≠ '\x1b' := by
      rintro rfl
      cases printed
    have decoded := decode_encodeChar typed []
    rwa [List.append_nil, typedEvent_of_shown printed] at decoded
  | application code letter named =>
    rw [(ReadAs.application letter).decode_eq,
      applicationEvent_of_letter named]
    rfl
  | lettered code letter modifiers first later proper named held =>
    exact
      decode_fieldSequence proper (cursorKey?_of_letter named).2.1
        (Or.inl named) held
  | numbered code number modifiers first later proper isNumber named held =>
    exact
      decode_fieldSequence proper rfl
        (Or.inr ⟨rfl, number, named, isNumber⟩) held

theorem decode_eq_key_iff :
    decode bytes = some (.key key, []) ↔ WrittenAs key bytes := by
  rw [decode_eq_some_nil_iff]
  constructor
  · exact writtenAs_of_readAs
  · intro written
    exact decode_eq_some_nil_iff.mp (decode_writtenAs written)

/-- Each form in which a terminal sends a key is a form that is read. -/
theorem writtenAs_of_sentAs
    (sent : SentAs key bytes) :
    WrittenAs key bytes := by
  have decoded := decode_sentAs sent []
  rw [List.append_nil] at decoded
  exact decode_eq_key_iff.mp decoded

/--
A decoder that is fed some bytes returns a key and has nothing pending exactly
if the bytes are a form in which that key is written.
-/
theorem key_iff_writtenAs
    (bytes : Bytes)
    (key : Key) :
    (feed {} bytes).next = (some (.key key), {}) ↔
      WrittenAs key bytes := by
  rw [next_eq_some_iff, pending_feed]
  exact decode_eq_key_iff

/-- A sign, a leading zero and a field that tells nothing. -/
example :
    (feed {}
        [0x1b, 0x5b, 0x2b, 0x33, 0x3b, 0x30, 0x36, 0x3b, 0x3f, 0x7e]).next =
      (some (.key ⟨.delete, { shift := true, control := true }⟩), {}) := by
  decide

end TerminalEditor.Decoder
