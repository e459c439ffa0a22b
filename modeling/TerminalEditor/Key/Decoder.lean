import TerminalEditor.Bytes
import TerminalEditor.Key.Basic
import TerminalEditor.Text.Fields
import TerminalEditor.Text.Numeral
import TerminalEditor.Text.Utf8

/-!
# Decoding keys from terminal input

A terminal in raw mode sends a key as one control byte, as the encoding of one
character, or as a sequence that starts with the escape byte.  `decode` takes
the first event off some bytes as soon as they determine it, and answers `none`
exactly while more bytes are needed.  A decoder keeps the bytes not yet decoded;
after a quiet wait it gives up on them, and a lone escape byte is then the
escape key.
-/

namespace TerminalEditor.Decoder

/-- The byte that starts a sequence. -/
def escapeByte : UInt8 :=
  0x1b

/-- Whether a byte ends a control sequence. -/
def isFinal (byte : UInt8) : Bool :=
  0x40 ≤ byte && byte ≤ 0x7e

/-- Whether a byte may stand before the final byte of a control sequence. -/
def isParameter (byte : UInt8) : Bool :=
  0x20 ≤ byte && byte ≤ 0x3f

/-- The key that a number names before a final `~`. -/
def numberedKey? (number : Nat) : Option KeyCode :=
  match number with
  | 1 | 7 => some .home
  | 2 => some .insert
  | 3 => some .delete
  | 4 | 8 => some .endKey
  | 5 => some .pageUp
  | 6 => some .pageDown
  | _ =>
    if 11 ≤ number ∧ number ≤ 15 then
      some (.function (number - 10))
    else if 17 ≤ number ∧ number ≤ 21 then
      some (.function (number - 11))
    else if 23 ≤ number ∧ number ≤ 24 then
      some (.function (number - 12))
    else
      none

/-- The cursor key that a letter names at the end of a sequence. -/
def cursorKey? (letter : UInt8) : Option KeyCode :=
  match Char.ofNat letter.toNat with
  | 'A' => some .up
  | 'B' => some .down
  | 'C' => some .right
  | 'D' => some .left
  | 'H' => some .home
  | 'F' => some .endKey
  | _ => none

/-- The value of a parameter, if it is a numeral of 16 bits. -/
def parameter? (field : Bytes) : Option Nat :=
  (Numeral.read 0xffff
    (field.map fun byte => Char.ofNat byte.toNat)).toOption

/-- The modifiers that the second parameter stands for. -/
def modifiersOf (parameters : List (Option Nat)) : Modifiers :=
  match parameters with
  | _ :: some value :: _ => Modifiers.ofBits (value - 1)
  | _ => Modifiers.empty

/-- The event of a control sequence with these parameter bytes. -/
def controlEvent
    (parameterBytes : Bytes)
    (final : UInt8) :
    Event :=
  if parameterBytes.all isParameter then
    let parameters :=
      (Text.fields 0x3b parameterBytes).map parameter?
    let code :=
      if final = 0x7e then
        parameters.head?.join.bind numberedKey?
      else
        cursorKey? final
    match code with
    | some code => .key ⟨code, modifiersOf parameters⟩
    | none => .unknown
  else
    .unknown

/-- Decodes the part of a control sequence after its introducer. -/
def decodeControl (bytes : Bytes) : Option (Event × Bytes) :=
  match bytes.dropWhile (!isFinal ·) with
  | [] => none
  | final :: rest =>
    some (controlEvent (bytes.takeWhile (!isFinal ·)) final, rest)

/-- The event of a key in application mode. -/
def applicationEvent (letter : UInt8) : Event :=
  match cursorKey? letter with
  | some code => .plain code
  | none =>
    if 0x50 ≤ letter ∧ letter ≤ 0x53 then
      .plain (.function (letter.toNat - 0x4f))
    else
      .unknown

/-- Decodes what follows an escape byte. -/
def decodeEscape : Bytes → Option (Event × Bytes)
  | [] => none
  | second :: rest =>
    if second = 0x5b then
      decodeControl rest
    else if second = 0x4f then
      match rest with
      | [] => none
      | letter :: rest => some (applicationEvent letter, rest)
    else
      some (.plain .escape, second :: rest)

/-- The number of bytes that follow a byte at the start of a character. -/
def followers? (lead : UInt8) : Option Nat :=
  if lead ≤ 0x7f then
    some 0
  else if lead < 0xc0 then
    none
  else if lead ≤ 0xdf then
    some 1
  else if lead ≤ 0xef then
    some 2
  else if lead ≤ 0xf7 then
    some 3
  else
    none

/-- Whether a character is a control character. -/
def isControl (char : Char) : Bool :=
  char.toNat < 0x20 || (0x7f ≤ char.toNat && char.toNat ≤ 0x9f)

/-- The event of the bytes of one character. -/
def characterEvent (encoded : Bytes) : Event :=
  match Utf8.char? encoded with
  | some char => if isControl char then .unknown else .plain (.char char)
  | none => .unknown

/-- Decodes a character that starts with `lead`. -/
def decodeCharacter
    (lead : UInt8)
    (rest : Bytes) :
    Option (Event × Bytes) :=
  match followers? lead with
  | none => some (.unknown, rest)
  | some count =>
    if rest.length < count then
      none
    else
      some (characterEvent (lead :: rest.take count), rest.drop count)

/-- The event of a byte that is a key by itself. -/
def controlByte? (byte : UInt8) : Option Event :=
  if byte = 0x0d then
    some (.plain .enter)
  else if byte = 0x0a then
    some (.plain .newline)
  else if byte = 0x09 then
    some (.plain .tab)
  else if byte = 0x7f ∨ byte = 0x08 then
    some (.plain .backspace)
  else if 1 ≤ byte ∧ byte ≤ 26 then
    some
      (.key
        ⟨.char (Char.ofNat (byte.toNat + 0x40)),
          Modifiers.controlOnly⟩)
  else
    none

/-- Takes the first event off some bytes, if they determine one. -/
def decode : Bytes → Option (Event × Bytes)
  | [] => none
  | first :: rest =>
    if first = escapeByte then
      decodeEscape rest
    else
      match controlByte? first with
      | some event => some (event, rest)
      | none => decodeCharacter first rest

theorem decodeControl_length_le
    {bytes rest : Bytes}
    {event : Event}
    (decoded : decodeControl bytes = some (event, rest)) :
    rest.length ≤ bytes.length := by
  unfold decodeControl at decoded
  split at decoded
  · cases decoded
  · next final tail found =>
    cases decoded
    have shorter := (List.dropWhile_sublist (!isFinal ·) (l := bytes)).length_le
    rw [found] at shorter
    exact Nat.le_of_succ_le shorter

theorem decodeEscape_length_le
    {bytes rest : Bytes}
    {event : Event}
    (decoded : decodeEscape bytes = some (event, rest)) :
    rest.length ≤ bytes.length := by
  cases bytes with
  | nil => cases decoded
  | cons second tail =>
    simp only [decodeEscape] at decoded
    split at decoded
    · exact Nat.le_succ_of_le (decodeControl_length_le decoded)
    · split at decoded
      · cases tail with
        | nil => cases decoded
        | cons letter tail =>
          cases decoded
          exact Nat.le_add_right _ 2
      · cases decoded
        exact Nat.le_refl _

theorem decodeCharacter_length_le
    {lead : UInt8}
    {bytes rest : Bytes}
    {event : Event}
    (decoded : decodeCharacter lead bytes = some (event, rest)) :
    rest.length ≤ bytes.length := by
  unfold decodeCharacter at decoded
  split at decoded
  · cases decoded
    exact Nat.le_refl _
  · split at decoded
    · cases decoded
    · cases decoded
      rw [List.length_drop]
      exact Nat.sub_le _ _

/-- Every event takes at least one byte. -/
theorem decode_length_lt
    {bytes rest : Bytes}
    {event : Event}
    (decoded : decode bytes = some (event, rest)) :
    rest.length < bytes.length := by
  cases bytes with
  | nil => cases decoded
  | cons first tail =>
    apply Nat.lt_succ_of_le
    rw [decode] at decoded
    split at decoded
    · exact decodeEscape_length_le decoded
    · split at decoded
      · cases decoded
        exact Nat.le_refl _
      · exact decodeCharacter_length_le decoded

/-- All events that some bytes determine, and the bytes left over. -/
def drain (bytes : Bytes) : List Event × Bytes :=
  match decoded : decode bytes with
  | none => ([], bytes)
  | some (event, rest) =>
    have := decode_length_lt decoded
    let later := drain rest
    (event :: later.1, later.2)
termination_by bytes.length

theorem drain_of_none
    {bytes : Bytes}
    (incomplete : decode bytes = none) :
    drain bytes = ([], bytes) := by
  rw [drain]
  split
  · rfl
  · next decoded =>
    rw [incomplete] at decoded
    cases decoded

theorem drain_of_some
    {bytes rest : Bytes}
    {event : Event}
    (decoded : decode bytes = some (event, rest)) :
    drain bytes = (event :: (drain rest).1, (drain rest).2) := by
  rw [drain]
  split
  · next incomplete =>
    rw [decoded] at incomplete
    cases incomplete
  · next other =>
    rw [decoded] at other
    cases other
    rfl

/-- The event that gives up on bytes which determine none. -/
def givenUp? (bytes : Bytes) : Option Event :=
  match bytes with
  | [] => none
  | [byte] => some (if byte = escapeByte then .plain .escape else .unknown)
  | _ => some .unknown

end TerminalEditor.Decoder

namespace TerminalEditor

/-- A decoder and the bytes it was fed and has not decoded. -/
structure Decoder where
  pending : Bytes := []
  deriving DecidableEq, Repr

namespace Decoder

/-- Adds bytes that have arrived. -/
def feed
    (decoder : Decoder)
    (bytes : Bytes) :
    Decoder :=
  ⟨decoder.pending ++ bytes⟩

/-- Takes the next event, if the pending bytes determine one. -/
def next (decoder : Decoder) : Option Event × Decoder :=
  match decode decoder.pending with
  | none => (none, decoder)
  | some (event, rest) => (some event, ⟨rest⟩)

/--
Takes the next event, and gives up on the pending bytes if they determine
none.
-/
def flush (decoder : Decoder) : Option Event × Decoder :=
  match decode decoder.pending with
  | none => (givenUp? decoder.pending, ⟨[]⟩)
  | some (event, rest) => (some event, ⟨rest⟩)

/-- Takes events until the pending bytes determine none. -/
def takeAll (decoder : Decoder) : List Event × Decoder :=
  let drained := drain decoder.pending
  (drained.1, ⟨drained.2⟩)

/-- Takes events and then gives up on the bytes left over. -/
def flushAll (decoder : Decoder) : List Event × Decoder :=
  let drained := drain decoder.pending
  (drained.1 ++ (givenUp? drained.2).toList, ⟨[]⟩)

@[simp]
theorem pending_feed
    (decoder : Decoder)
    (bytes : Bytes) :
    (decoder.feed bytes).pending = decoder.pending ++ bytes :=
  rfl

end Decoder

end TerminalEditor
