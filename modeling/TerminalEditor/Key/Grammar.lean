import TerminalEditor.Key.Encoding

/-!
# The bytes that name keys

Terminals differ in how they send a key, and more forms are read than any of
them sends.  A control sequence may have any fields between semicolons.  Its
last byte names the key, or its first field does before a final `~`; its second
field tells the modifiers, if it is a numeral, and the other fields tell
nothing.
-/

namespace TerminalEditor.Key

/-- The bytes that may stand between the semicolons of a control sequence. -/
def IsField (field : Bytes) : Prop :=
  ∀ byte ∈ field, 0x20 ≤ byte ∧ byte ≤ 0x3f ∧ byte ≠ 0x3b

/-- A field that is a numeral of 16 bits. -/
def IsNumber
    (field : Bytes)
    (value : Nat) :
    Prop :=
  ∃ text : List Char,
    Numeral.Denotes text value ∧ value ≤ 0xffff ∧
      field = Utf8.encode text

/--
The modifiers that the fields after the first one tell: a number is one more than
what they count for together, shift for 1, alt for 2, control for 4 and meta for
8, and its multiples of 16 tell nothing.
-/
inductive TellModifiers : List Bytes → Modifiers → Prop
  | bits (second : Bytes) (others : List Bytes) (modifiers : Modifiers)
      (further : Nat)
      (number :
        IsNumber second
          (16 * further +
              (modifiers.shift.toNat + 2 * modifiers.alt.toNat +
                4 * modifiers.control.toNat +
                8 * modifiers.metaKey.toNat) +
            1)) :
      TellModifiers (second :: others) modifiers
  | zero (second : Bytes) (others : List Bytes)
      (number : IsNumber second 0) :
      TellModifiers (second :: others) .empty
  | other (second : Bytes) (others : List Bytes)
      (noNumber : ∀ value : Nat, ¬ IsNumber second value) :
      TellModifiers (second :: others) .empty
  | missing : TellModifiers [] .empty

/-- A control sequence with these fields. -/
def fieldSequence
    (fields : List Bytes)
    (final : UInt8) :
    Bytes :=
  controlSequence ([0x3b].intercalate fields) final

/-- The forms in which a key may be written. -/
inductive WrittenAs : Key → Bytes → Prop
  | enter : WrittenAs { code := .enter } [0x0d]
  | newline : WrittenAs { code := .newline } [0x0a]
  | tab : WrittenAs { code := .tab } [0x09]
  | backspace : WrittenAs { code := .backspace } [0x08]
  | delete : WrittenAs { code := .backspace } [0x7f]
  | control (byte : UInt8)
      (range : 1 ≤ byte ∧ byte ≤ 26)
      (isFree : byte ∉ [0x08, 0x09, 0x0a, 0x0d]) :
      WrittenAs
        ⟨.char (Char.ofNat ('A'.toNat + byte.toNat - 1)), .controlOnly⟩
        [byte]
  | character (char : Char)
      (printed : Decoder.isControl char = false) :
      WrittenAs { code := .char char } (String.utf8EncodeChar char)
  | application (code : KeyCode) (letter : UInt8)
      (named : code.applicationLetter? = some letter) :
      WrittenAs { code } [Decoder.escapeByte, 0x4f, letter]
  | lettered (code : KeyCode) (letter : UInt8)
      (modifiers : Modifiers)
      (first : Bytes) (later : List Bytes)
      (proper : ∀ field ∈ first :: later, IsField field)
      (named : code.letter? = some letter)
      (held : TellModifiers later modifiers) :
      WrittenAs ⟨code, modifiers⟩ (fieldSequence (first :: later) letter)
  | numbered (code : KeyCode) (number : Nat)
      (modifiers : Modifiers)
      (first : Bytes) (later : List Bytes)
      (proper : ∀ field ∈ first :: later, IsField field)
      (isNumber : IsNumber first number)
      (named : number ∈ code.numbers)
      (held : TellModifiers later modifiers) :
      WrittenAs ⟨code, modifiers⟩ (fieldSequence (first :: later) 0x7e)

end TerminalEditor.Key
