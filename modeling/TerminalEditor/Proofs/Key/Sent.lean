import TerminalEditor.Proofs.Key.Fragments
import TerminalEditor.Proofs.Key.Names
import TerminalEditor.Proofs.Text.ReadBack
import TerminalEditor.Proofs.Text.Runs

/-!
# Keys that are sent are decoded

Each form in which a key is sent ends where it ends, whatever follows it: a
character announces its length, and a sequence ends with its final byte.  So
keys sent one after the other are decoded in order, however their bytes arrive,
and no byte is left to wait for.
-/

namespace TerminalEditor.Decoder

/-! ## Characters -/

section Characters

open Utf8

variable
    {char : Char}
    {value : Nat}

theorem ne_of_toNat_ne {byte other : UInt8}
    (different : byte.toNat ≠ other.toNat) :
    byte ≠ other := by
  rintro rfl
  exact different rfl

/-- A byte that starts a character that is shown is no key by itself. -/
theorem controlByte?_of_shown {byte : UInt8}
    (high : 0x1a < byte.toNat)
    (kept : byte.toNat ≠ 0x7f) :
    controlByte? byte = none := by
  have different : ∀ other : UInt8,
      other.toNat ≤ 0x1a ∨ other.toNat = 0x7f → byte ≠ other := by
    intro other range
    apply ne_of_toNat_ne
    omega
  have large : ¬ (1 ≤ byte ∧ byte ≤ 26) := by
    rintro ⟨-, small⟩
    have : byte.toNat ≤ 26 := UInt8.le_iff_toNat_le.mp small
    omega
  rw [controlByte?, if_neg (different _ (by decide)),
    if_neg (different _ (by decide)), if_neg (different _ (by decide)),
    if_neg, if_neg large]
  rintro (delete | back)
  · exact different 0x7f (by decide) delete
  · exact different 0x08 (by decide) back

/-- The bytes below the space are control with a letter, but for four. -/
theorem controlByte?_of_letter {byte : UInt8}
    (low : 1 ≤ byte.toNat)
    (high : byte.toNat ≤ 26)
    (free : byte.toNat ∉ [8, 9, 10, 13]) :
    controlByte? byte =
      some
        (.key
          ⟨.char (Char.ofNat (byte.toNat + 0x40)), .controlOnly⟩) := by
  have different : ∀ other : UInt8,
      other.toNat ∈ [8, 9, 10, 13] ∨ other.toNat = 0x7f →
        byte ≠ other := by
    rintro other range rfl
    rcases range with used | delete
    · exact free used
    · omega
  have letter : 1 ≤ byte ∧ byte ≤ 26 :=
    ⟨UInt8.le_iff_toNat_le.mpr low, UInt8.le_iff_toNat_le.mpr high⟩
  rw [controlByte?, if_neg (different _ (by decide)),
    if_neg (different _ (by decide)), if_neg (different _ (by decide)),
    if_neg, if_pos letter]
  rintro (delete | back)
  · exact different 0x7f (by decide) delete
  · exact different 0x08 (by decide) back

theorem followers?_eq (byte : UInt8) :
    followers? byte =
      if byte.toNat ≤ 0x7f then
        some 0
      else if byte.toNat < 0xc0 then
        none
      else if byte.toNat ≤ 0xdf then
        some 1
      else if byte.toNat ≤ 0xef then
        some 2
      else if byte.toNat ≤ 0xf7 then
        some 3
      else
        none := by
  simp only [followers?, UInt8.le_iff_toNat_le, UInt8.lt_iff_toNat_lt]
  rfl

/-- The lead byte of a character announces how many bytes follow it. -/
theorem exists_lead (char : Char) :
    ∃ (first : UInt8) (rest : Bytes),
      String.utf8EncodeChar char = first :: rest ∧
        followers? first = some rest.length ∧
        (char.toNat ≤ 0x7f ∧ rest = [] ∧ first.toNat = char.toNat ∨
          0x7f < char.toNat ∧ 0x80 ≤ first.toNat) := by
  have bounded := toNat_lt char
  by_cases one : char.toNat ≤ 0x7f
  · have number := toNat_ofNat_ascii one
    refine ⟨_, [], encodeChar_of_ascii one, ?_, Or.inl ⟨one, rfl, number⟩⟩
    rw [followers?_eq, number, if_pos one]
    rfl
  by_cases two : char.toNat ≤ 0x7ff
  · have number :=
      toNat_lead (show char.toNat / 64 + 192 < 256 by omega)
    refine ⟨_, _, encodeChar_of_two (by omega) two, ?_, Or.inr ?_⟩
    · rw [followers?_eq, number, if_neg (by omega), if_neg (by omega),
        if_pos (by omega)]
      rfl
    · omega
  by_cases three : char.toNat ≤ 0xffff
  · have number :=
      toNat_lead (show char.toNat / 4096 + 224 < 256 by omega)
    refine ⟨_, _, encodeChar_of_three (by omega) three, ?_, Or.inr ?_⟩
    · rw [followers?_eq, number, if_neg (by omega), if_neg (by omega),
        if_neg (by omega), if_pos (by omega)]
      rfl
    · omega
  · have number :=
      toNat_lead (show char.toNat / 262144 + 240 < 256 by omega)
    refine ⟨_, _, encodeChar_of_four (by omega), ?_, Or.inr ?_⟩
    · rw [followers?_eq, number, if_neg (by omega), if_neg (by omega),
        if_neg (by omega), if_neg (by omega), if_pos (by omega)]
      rfl
    · omega

/-- As many bytes as the first one announces are one character. -/
theorem decodeCharacter_of_followers
    {first : UInt8}
    {rest : Bytes}
    (announced : followers? first = some rest.length)
    (more : Bytes) :
    decodeCharacter first (rest ++ more) =
      some (characterEvent (first :: rest), more) :=
  decodeCharacter_eq_some_iff.mpr (Or.inr ⟨rest, announced, rfl, rfl⟩)

theorem characterEvent_encodeChar (char : Char) :
    characterEvent (String.utf8EncodeChar char) =
      if isControl char then .unknown else .plain (.char char) := by
  rw [characterEvent, char?_encodeChar]

/-- The key that a character is when it is typed. -/
def typedEvent (char : Char) : Event :=
  let control? : Option Event :=
    if char.toNat ≤ 0x7f then
      controlByte? (UInt8.ofNat char.toNat)
    else
      none
  control?.getD
    (if isControl char then .unknown else .plain (.char char))

/-- A character is decoded by itself, whatever is typed after it. -/
theorem decode_encodeChar
    (typed : char ≠ '\x1b')
    (more : Bytes) :
    decode (String.utf8EncodeChar char ++ more) =
      some (typedEvent char, more) := by
  rcases exists_lead char with ⟨first, rest, encoded, announced, shape⟩
  have plain : first ≠ escapeByte := by
    rintro rfl
    rcases shape with ⟨-, -, number⟩ | ⟨-, high⟩
    · exact typed (Char.toNat_inj.mp number.symm)
    · exact absurd high (by decide)
  have event := characterEvent_encodeChar char
  rw [encoded] at event
  rw [encoded, List.cons_append, decode, if_neg plain,
    decodeCharacter_of_followers announced, event, typedEvent]
  rcases shape with ⟨ascii, alone, number⟩ | ⟨wide, high⟩
  · have same : UInt8.ofNat char.toNat = first := by
      rw [← number, UInt8.ofNat_toNat]
    subst alone
    rw [if_pos ascii, same]
    cases controlByte? first <;> rfl
  -- The first of several bytes is too large to be a key by itself.
  · rw [controlByte?_of_shown (by omega) (by omega),
      if_neg (Nat.not_le.mpr wide)]
    rfl

/-- A character that is shown is the key of that character. -/
theorem typedEvent_of_shown
    (shown : isControl char = false) :
    typedEvent char = .plain (.char char) := by
  have range := shown
  rw [isControl, Bool.or_eq_false_iff, decide_eq_false_iff_not,
    Bool.and_eq_false_iff, decide_eq_false_iff_not,
    decide_eq_false_iff_not] at range
  have none :
      (if char.toNat ≤ 0x7f then
          controlByte? (UInt8.ofNat char.toNat)
        else
          none) =
        none := by
    split
    · next ascii =>
      have number := toNat_ofNat_ascii ascii
      apply controlByte?_of_shown <;> omega
    · rfl
  rw [typedEvent, none, shown]
  rfl

/-- A text is decoded one character after the other. -/
theorem drain_encode {text : List Char}
    (typed : '\x1b' ∉ text) :
    drain (encode text) = (text.map typedEvent, []) := by
  induction text with
  | nil => exact drain_of_none rfl
  | cons first later ih =>
    rw [List.mem_cons, not_or] at typed
    rw [encode_cons,
      drain_of_some (decode_encodeChar (Ne.symm typed.1) (encode later)),
      ih typed.2]
    rfl

end Characters

/-! ## Sequences -/

section Sequences

open Utf8

variable
    {code : KeyCode}
    {letter : UInt8}

/-- A control sequence is decoded by its parameters and its final byte. -/
theorem decode_controlSequence
    {parameters : Bytes}
    {final : UInt8}
    (inner : ∀ byte ∈ parameters, isParameter byte = true)
    (ends : isFinal final = true)
    (more : Bytes) :
    decode (Key.controlSequence parameters final ++ more) =
      some (controlEvent parameters final, more) := by
  have passed : ∀ byte ∈ parameters, isFinal byte = false := by
    intro byte member
    have small : byte.toNat ≤ 0x3f :=
      UInt8.le_iff_toNat_le.mp (isParameter_iff.mp (inner byte member)).2
    have notAbove : ¬ 0x40 ≤ byte := by
      intro above
      have large : 0x40 ≤ byte.toNat := UInt8.le_iff_toNat_le.mp above
      omega
    rw [isFinal, decide_eq_false notAbove]
    rfl
  exact (ReadAs.control parameters final passed ends).decode_append more

/-- The bytes of a number are digits. -/
theorem toNat_of_mem_decimal {number : Nat} {byte : UInt8}
    (member : byte ∈ Key.decimal number) :
    0x30 ≤ byte.toNat ∧ byte.toNat ≤ 0x39 := by
  rcases List.mem_map.mp member with ⟨digit, inside, rfl⟩
  have range := toNat_of_mem_toDigits inside
  rw [toNat_ofNat_ascii (Nat.le_trans range.2 (by decide))]
  exact range

theorem isParameter_of_mem_decimal {number : Nat} :
    ∀ byte ∈ Key.decimal number, isParameter byte = true := by
  intro byte member
  have range := toNat_of_mem_decimal member
  have low : 0x20 ≤ byte :=
    UInt8.le_iff_toNat_le.mpr (Nat.le_trans (by decide) range.1)
  have high : byte ≤ 0x3f :=
    UInt8.le_iff_toNat_le.mpr (Nat.le_trans range.2 (by decide))
  exact isParameter_iff.mpr ⟨low, high⟩

/-- A digit is kept when it is written as a byte and read again. -/
theorem ofNat_toNat_digit {number : Nat} {digit : Char}
    (member : digit ∈ Nat.toDigits 10 number) :
    Char.ofNat (UInt8.ofNat digit.toNat).toNat = digit := by
  have range := toNat_of_mem_toDigits member
  rw [toNat_ofNat_ascii (Nat.le_trans range.2 (by decide)),
    Char.ofNat_toNat]

/-- A number of 16 bits is read back from its digits. -/
theorem parameter?_decimal {number : Nat}
    (small : number ≤ 0xffff) :
    parameter? (Key.decimal number) = some number := by
  have digits :
      (Key.decimal number).map (fun byte => Char.ofNat byte.toNat) =
        Nat.toDigits 10 number := by
    rw [Key.decimal, List.map_map]
    calc
      (Nat.toDigits 10 number).map _ =
          (Nat.toDigits 10 number).map id :=
        List.map_congr_left fun _ member => ofNat_toNat_digit member
      _ = Nat.toDigits 10 number := List.map_id _
  rw [parameter?, digits, Numeral.read_toDigits small]
  rfl

/-- No digit is taken for the separator of parameters. -/
theorem separator_not_mem_decimal (number : Nat) :
    0x3b ∉ Key.decimal number := by
  intro member
  exact absurd (toNat_of_mem_decimal member).2 (by decide)

/-- The parameters and the final byte of a sequence make the key. -/
theorem controlEvent_of_read
    {parameterBytes : Bytes}
    {final : UInt8}
    {parameters : List (Option Nat)}
    (inner : ∀ byte ∈ parameterBytes, isParameter byte = true)
    (read :
      (Text.fields 0x3b parameterBytes).map parameter? = parameters)
    (named :
      (if final = 0x7e then
          parameters.head?.join.bind numberedKey?
        else
          cursorKey? final) =
        some code) :
    controlEvent parameterBytes final =
      .key ⟨code, modifiersOf parameters⟩ := by
  rw [controlEvent, if_pos (List.all_eq_true.mpr inner)]
  simp only [read, named]

theorem read_decimal {number : Nat}
    (small : number ≤ 24) :
    (Text.fields 0x3b (Key.decimal number)).map parameter? =
      [some number] := by
  rw [Text.fields_of_free (separator_not_mem_decimal number),
    List.map_singleton,
    parameter?_decimal (Nat.le_trans small (by decide))]

theorem read_parameters {number : Nat}
    (small : number ≤ 24)
    (modifiers : Modifiers) :
    (Text.fields 0x3b (Key.parameters number modifiers)).map
        parameter? =
      [some number, some (modifiers.bits + 1)] := by
  have few := modifiers.bits_lt
  rw [Key.parameters,
    Text.fields_append_separator (separator_not_mem_decimal number),
    List.map_cons, Text.fields_of_free (separator_not_mem_decimal _),
    List.map_singleton,
    parameter?_decimal (Nat.le_trans small (by decide)),
    parameter?_decimal (by omega)]

theorem modifiersOf_bits
    (first : Option Nat)
    (modifiers : Modifiers) :
    modifiersOf [first, some (modifiers.bits + 1)] = modifiers := by
  rw [modifiersOf, Nat.add_sub_cancel, Modifiers.ofBits_bits]

theorem isParameter_of_mem_parameters
    {number : Nat}
    {modifiers : Modifiers} :
    ∀ byte ∈ Key.parameters number modifiers,
      isParameter byte = true := by
  intro byte member
  rcases List.mem_append.mp member with first | later
  · exact isParameter_of_mem_decimal byte first
  rcases List.mem_cons.mp later with rfl | second
  · rfl
  · exact isParameter_of_mem_decimal byte second

end Sequences

/-! ## All forms -/

section Forms

open Key

variable
    {key : Key}
    {keys : List Key}
    {bytes : Bytes}

/-- A letter sent with control is decoded as that letter. -/
theorem decode_control {letter : Char}
    (isLetter : 'A' ≤ letter ∧ letter ≤ 'Z')
    (isFree : letter ∉ ['H', 'I', 'J', 'M'])
    (more : Bytes) :
    decode (UInt8.ofNat (letter.toNat - 0x40) :: more) =
      some (.key ⟨.char letter, .controlOnly⟩, more) := by
  have low : 65 ≤ letter.toNat := isLetter.1
  have high : letter.toNat ≤ 90 := isLetter.2
  have number :
      (UInt8.ofNat (letter.toNat - 0x40)).toNat =
        letter.toNat - 0x40 := by
    rw [UInt8.toNat_ofNat']
    omega
  have back : letter.toNat - 0x40 + 0x40 = letter.toNat := by
    omega
  have free :
      (UInt8.ofNat (letter.toNat - 0x40)).toNat ∉ [8, 9, 10, 13] := by
    rw [number]
    intro used
    apply isFree
    simp only [List.mem_cons, List.not_mem_nil, or_false] at used
    rw [← Char.ofNat_toNat letter, ← back]
    rcases used with same | same | same | same <;>
      · rw [same]
        decide
  have plain : UInt8.ofNat (letter.toNat - 0x40) ≠ escapeByte := by
    apply ne_of_toNat_ne
    have escape : escapeByte.toNat = 27 := rfl
    omega
  rw [decode, if_neg plain,
    controlByte?_of_letter (by omega) (by omega) free, number, back,
    Char.ofNat_toNat]

/-- However a key is sent, it is decoded whatever is sent after it. -/
theorem decode_sentAs
    (sent : SentAs key bytes)
    (more : Bytes) :
    decode (bytes ++ more) = some (.key key, more) := by
  cases sent with
  | character char printed =>
    rw [decode_encodeChar, typedEvent_of_shown printed]
    · rfl
    · rintro rfl
      cases printed
  | enter => rfl
  | newline => rfl
  | tab => rfl
  | backspace => rfl
  | control letter isLetter isFree =>
    exact decode_control isLetter isFree more
  | lettered code letter named =>
    rcases cursorKey?_of_letter named with ⟨known, ends, notNumbered⟩
    rw [decode_controlSequence (fun _ member => by cases member) ends,
      controlEvent_of_read (fun _ member => by cases member) rfl
        (by rw [if_neg notNumbered]; exact known)]
    rfl
  | letteredWith code letter modifiers named held =>
    rcases cursorKey?_of_letter named with ⟨known, ends, notNumbered⟩
    rw [decode_controlSequence isParameter_of_mem_parameters ends,
      controlEvent_of_read isParameter_of_mem_parameters
        (read_parameters (by decide) modifiers)
        (by rw [if_neg notNumbered]; exact known),
      modifiersOf_bits]
  | numbered code number named =>
    rcases numberedKey?_of_mem named with ⟨known, small⟩
    rw [decode_controlSequence isParameter_of_mem_decimal rfl,
      controlEvent_of_read isParameter_of_mem_decimal
        (read_decimal small) (by rw [if_pos rfl]; exact known)]
    rfl
  | numberedWith code number modifiers named =>
    rcases numberedKey?_of_mem named with ⟨known, small⟩
    rw [decode_controlSequence isParameter_of_mem_parameters rfl,
      controlEvent_of_read isParameter_of_mem_parameters
        (read_parameters small modifiers)
        (by rw [if_pos rfl]; exact known),
      modifiersOf_bits]
  | application code letter named =>
    have escaped :
        decode ([escapeByte, 0x4f, letter] ++ more) =
          some (applicationEvent letter, more) :=
      rfl
    rw [escaped, applicationEvent_of_letter named]
    rfl

/-- Keys sent one after the other are decoded in order. -/
theorem drain_allSentAs
    (sent : AllSentAs keys bytes) :
    drain bytes = (keys.map .key, []) := by
  induction sent with
  | nil => exact drain_of_none rfl
  | cons key keys first later sent others ih =>
    rw [drain_of_some (decode_sentAs sent later), ih]
    rfl

/--
However the bytes of keys sent one after the other are cut, polling the decoder
until it has no event completes exactly these keys, and leaves nothing pending.
-/
theorem follow_sent_keys
    {uses : List DecoderUse}
    (sent : AllSentAs keys (fed uses)) :
    ∃ later : List Event,
      (∀ (events : List Event) (after : Decoder),
        Drains (follow {} uses).2 events after ↔
          events = later ∧ after = {}) ∧
        (follow {} uses).1 ++ later = keys.map .key :=
  exists_drains (drain_allSentAs sent)

/--
A letter with control, an arrow cut in its parameters, a character cut in two
and two function keys, the second in application mode.
-/
theorem follow_cut_keys :
    let keys : List Key :=
      [⟨.char 'C', .controlOnly⟩,
        ⟨.up, { shift := true, control := true }⟩,
        { code := .char 'é' },
        ⟨.function 12, { alt := true }⟩,
        { code := .function 1 }]
    let uses : List DecoderUse :=
      [.feed [0x03, 0x1b, 0x5b, 0x31], .poll, .poll,
        .feed [0x3b, 0x36, 0x41, 0xc3], .poll, .poll,
        .feed [0xa9, 0x1b, 0x5b, 0x32, 0x34, 0x3b, 0x33, 0x7e, 0x1b],
        .feed [0x4f], .feed [0x50]]
    AllSentAs keys (fed uses) ∧
      ∃ later : List Event,
        (∀ (events : List Event) (after : Decoder),
          Drains (follow {} uses).2 events after ↔
            events = later ∧ after = {}) ∧
          (follow {} uses).1 ++ later = keys.map .key := by
  intro keys uses
  have sent : AllSentAs keys (fed uses) :=
    .cons _ _ [0x03] _ (.control 'C' (by decide) (by decide)) <|
      .cons _ _ [0x1b, 0x5b, 0x31, 0x3b, 0x36, 0x41] _
        (.letteredWith .up 0x41 _ rfl (by decide)) <|
      .cons _ _ [0xc3, 0xa9] _ (.character 'é' rfl) <|
      .cons _ _ [0x1b, 0x5b, 0x32, 0x34, 0x3b, 0x33, 0x7e] _
        (.numberedWith (.function 12) 24 _ (by decide)) <|
      .cons _ _ [0x1b, 0x4f, 0x50] _
        (.application (.function 1) 0x50 rfl) .nil
  exact ⟨sent, follow_sent_keys sent⟩

end Forms

end TerminalEditor.Decoder
