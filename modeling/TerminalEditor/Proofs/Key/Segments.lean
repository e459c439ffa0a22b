import Mathlib.Data.List.TakeWhile
import TerminalEditor.Key.Decoder

/-!
# The bytes of one event

The first event of some bytes is decoded from a segment at their start, and the
bytes after the segment are left.  A segment is one control byte, the bytes of
one character, or a sequence up to its last byte, and is decoded alike whatever
follows it.  The escape key is the one exception: it is decoded only before a
byte that does not go on with a sequence.
-/

namespace TerminalEditor.Decoder

/-- The bytes that are read as one event, whatever follows them. -/
inductive ReadAs : Bytes → Event → Prop
  | controlByte (byte : UInt8) (event : Event)
      (noEscape : byte ≠ escapeByte)
      (known : controlByte? byte = some event) :
      ReadAs [byte] event
  | stray (byte : UInt8)
      (noEscape : byte ≠ escapeByte)
      (noKey : controlByte? byte = none)
      (noLead : followers? byte = none) :
      ReadAs [byte] .unknown
  | character (lead : UInt8) (followers : Bytes)
      (noEscape : lead ≠ escapeByte)
      (noKey : controlByte? lead = none)
      (announced : followers? lead = some followers.length) :
      ReadAs (lead :: followers) (characterEvent (lead :: followers))
  | control (parameters : Bytes) (final : UInt8)
      (inner : ∀ byte ∈ parameters, isFinal byte = false)
      (ends : isFinal final = true) :
      ReadAs (escapeByte :: 0x5b :: (parameters ++ [final]))
        (controlEvent parameters final)
  | application (letter : UInt8) :
      ReadAs [escapeByte, 0x4f, letter] (applicationEvent letter)

/-- The escape byte before a byte that does not go on with a sequence. -/
inductive IsLoneEscape : Bytes → Bytes → Prop
  | before (byte : UInt8) (later : Bytes)
      (noControl : byte ≠ 0x5b)
      (noApplication : byte ≠ 0x4f) :
      IsLoneEscape (escapeByte :: byte :: later) (byte :: later)

variable
    {bytes rest segment : Bytes}
    {event : Event}

/-- A control sequence ends with the first final byte after its introducer. -/
theorem decodeControl_eq_some_iff :
    decodeControl bytes = some (event, rest) ↔
      ∃ (parameters : Bytes) (final : UInt8),
        (∀ byte ∈ parameters, isFinal byte = false) ∧
          isFinal final = true ∧
          bytes = parameters ++ final :: rest ∧
          event = controlEvent parameters final := by
  constructor
  · intro decoded
    rw [decodeControl] at decoded
    have whole :=
      List.takeWhile_append_dropWhile (p := (!isFinal ·)) (l := bytes)
    have ends := List.head?_dropWhile_not (!isFinal ·) bytes
    cases found : bytes.dropWhile (!isFinal ·) with
    | nil =>
      rw [found] at decoded
      cases decoded
    | cons final tail =>
      rw [found] at decoded whole ends
      cases decoded
      refine ⟨_, final, ?_, by simpa using ends, whole.symm, rfl⟩
      intro byte member
      simpa using List.mem_takeWhile_imp member
  · rintro ⟨parameters, final, inner, ends, rfl, rfl⟩
    have passed : ∀ byte ∈ parameters, (!isFinal byte) = true := by
      intro byte member
      rw [inner byte member]
      rfl
    rw [decodeControl, List.dropWhile_append_of_pos passed,
      List.takeWhile_append_of_pos passed]
    simp [ends]

/-- A character has the bytes that its first one announces. -/
theorem decodeCharacter_eq_some_iff {lead : UInt8} :
    decodeCharacter lead bytes = some (event, rest) ↔
      followers? lead = none ∧ bytes = rest ∧ event = .unknown ∨
        ∃ followers : Bytes,
          followers? lead = some followers.length ∧
            bytes = followers ++ rest ∧
            event = characterEvent (lead :: followers) := by
  rw [decodeCharacter]
  cases announced : followers? lead with
  | none => simp [eq_comm, and_comm]
  | some count =>
    constructor
    · intro decoded
      simp only at decoded
      split at decoded
      · cases decoded
      · next enough =>
        cases decoded
        refine
          Or.inr ⟨bytes.take count, ?_, (List.take_append_drop _ _).symm,
            rfl⟩
        rw [List.length_take, Nat.min_eq_left (Nat.le_of_not_lt enough)]
    · rintro (⟨none, -⟩ | ⟨followers, same, rfl, rfl⟩)
      · cases none
      · cases same
        simp

/-- What follows an escape byte is a sequence, or it is left. -/
theorem cases_of_decodeEscape
    (decoded : decodeEscape bytes = some (event, rest)) :
    (∃ segment : Bytes,
      ReadAs segment event ∧ escapeByte :: bytes = segment ++ rest) ∨
      event = .plain .escape ∧ IsLoneEscape (escapeByte :: bytes) rest := by
  cases bytes with
  | nil => cases decoded
  | cons second later =>
    simp only [decodeEscape] at decoded
    split at decoded
    · next control =>
      subst control
      rcases decodeControl_eq_some_iff.mp decoded with
        ⟨parameters, final, inner, ends, rfl, rfl⟩
      refine Or.inl ⟨_, .control parameters final inner ends, ?_⟩
      simp
    · next noControl =>
      split at decoded
      · next application =>
        subst application
        cases later with
        | nil => cases decoded
        | cons letter later =>
          cases decoded
          exact Or.inl ⟨_, .application letter, rfl⟩
      · next noApplication =>
        cases decoded
        exact
          Or.inr ⟨rfl, .before second later noControl noApplication⟩

/--
An event is decoded exactly from the bytes that are read as it, or it is the
escape key and comes from a lone escape byte.
-/
theorem decode_eq_some_iff :
    decode bytes = some (event, rest) ↔
      (∃ segment : Bytes,
        ReadAs segment event ∧ bytes = segment ++ rest) ∨
        event = .plain .escape ∧ IsLoneEscape bytes rest := by
  constructor
  · intro decoded
    cases bytes with
    | nil => cases decoded
    | cons first later =>
      rw [decode] at decoded
      split at decoded
      · next escape =>
        subst escape
        exact cases_of_decodeEscape decoded
      · next noEscape =>
        apply Or.inl
        cases control : controlByte? first with
        | some known =>
          rw [control] at decoded
          cases decoded
          exact ⟨_, .controlByte first event noEscape control, rfl⟩
        | none =>
          rw [control] at decoded
          rcases decodeCharacter_eq_some_iff.mp decoded with
            ⟨noLead, rfl, rfl⟩ | ⟨followers, announced, rfl, rfl⟩
          · exact ⟨_, .stray first noEscape control noLead, rfl⟩
          · exact
              ⟨_, .character first followers noEscape control announced,
                rfl⟩
  · rintro (⟨segment, read, rfl⟩ | ⟨rfl, lone⟩)
    · cases read with
      | controlByte byte event noEscape known =>
        rw [List.singleton_append, decode, if_neg noEscape, known]
      | stray byte noEscape noKey noLead =>
        rw [List.singleton_append, decode, if_neg noEscape, noKey]
        exact
          decodeCharacter_eq_some_iff.mpr (Or.inl ⟨noLead, rfl, rfl⟩)
      | character lead followers noEscape noKey announced =>
        rw [List.cons_append, decode, if_neg noEscape, noKey]
        exact
          decodeCharacter_eq_some_iff.mpr
            (Or.inr ⟨followers, announced, rfl, rfl⟩)
      | control parameters final inner ends =>
        apply decodeControl_eq_some_iff.mpr
        exact
          ⟨parameters, final, inner, ends,
            List.append_assoc parameters [final] rest, rfl⟩
      | application letter => rfl
    · cases lone with
      | before byte later noControl noApplication =>
        have other :
            decodeEscape (byte :: later) =
              some (.plain .escape, byte :: later) := by
          simp only [decodeEscape, if_neg noControl, if_neg noApplication]
        exact other

theorem ReadAs.ne_nil (read : ReadAs segment event) : segment ≠ [] := by
  cases read <;> exact List.cons_ne_nil _ _

/-- What a segment is read as does not depend on what follows it. -/
theorem ReadAs.decode_append
    (read : ReadAs segment event)
    (more : Bytes) :
    decode (segment ++ more) = some (event, more) :=
  decode_eq_some_iff.mpr (Or.inl ⟨segment, read, rfl⟩)

theorem ReadAs.decode_eq (read : ReadAs segment event) :
    decode segment = some (event, []) := by
  have decoded := read.decode_append []
  rwa [List.append_nil] at decoded

/-- A lone escape byte always leaves the byte after it. -/
theorem IsLoneEscape.ne_nil
    (lone : IsLoneEscape bytes rest) :
    rest ≠ [] := by
  cases lone
  exact List.cons_ne_nil _ _

/-- A lone escape byte is one whatever follows the byte after it. -/
theorem IsLoneEscape.append
    (lone : IsLoneEscape bytes rest)
    (more : Bytes) :
    IsLoneEscape (bytes ++ more) (rest ++ more) := by
  cases lone with
  | before byte later noControl noApplication =>
    exact .before byte (later ++ more) noControl noApplication

/-- Bytes that are one event and leave nothing are read as that event. -/
theorem decode_eq_some_nil_iff :
    decode bytes = some (event, []) ↔ ReadAs bytes event := by
  constructor
  · intro decoded
    rcases decode_eq_some_iff.mp decoded with
      ⟨segment, read, rfl⟩ | ⟨-, lone⟩
    · rwa [List.append_nil]
    · exact absurd rfl lone.ne_nil
  · exact ReadAs.decode_eq

end TerminalEditor.Decoder
