import TerminalEditor.Key.Decoder

/-!
# The forms in which terminals send keys

A terminal has one form or several for each key it can send.  A character is
sent as its encoding, a few keys as one control byte, and the others as a
sequence that ends with a letter or with a number and `~`.  Modifiers are sent
as the second parameter of a control sequence, one more than their bits.
-/

namespace TerminalEditor

namespace KeyCode

/-- The letter that names a key at the end of a control sequence. -/
def letter? : KeyCode → Option UInt8
  | .up => some 0x41
  | .down => some 0x42
  | .right => some 0x43
  | .left => some 0x44
  | .endKey => some 0x46
  | .home => some 0x48
  | _ => none

/-- The letter that names a key in application mode. -/
def applicationLetter? : KeyCode → Option UInt8
  | .function 1 => some 0x50
  | .function 2 => some 0x51
  | .function 3 => some 0x52
  | .function 4 => some 0x53
  | code => code.letter?

/-- The numbers that name a key before a final `~`. -/
def numbers : KeyCode → List Nat
  | .home => [1, 7]
  | .insert => [2]
  | .delete => [3]
  | .endKey => [4, 8]
  | .pageUp => [5]
  | .pageDown => [6]
  | .function number =>
    if 1 ≤ number ∧ number ≤ 5 then
      [number + 10]
    else if 6 ≤ number ∧ number ≤ 10 then
      [number + 11]
    else if 11 ≤ number ∧ number ≤ 12 then
      [number + 12]
    else
      []
  | _ => []

end KeyCode

namespace Key

/-- A number in decimal digits. -/
def decimal (number : Nat) : Bytes :=
  (Nat.toDigits 10 number).map fun digit => UInt8.ofNat digit.toNat

/-- The parameters of a sequence, of which the second are the modifiers. -/
def parameters
    (number : Nat)
    (modifiers : Modifiers) :
    Bytes :=
  decimal number ++ 0x3b :: decimal (modifiers.bits + 1)

/-- The bytes of a control sequence. -/
def controlSequence
    (parameters : Bytes)
    (final : UInt8) :
    Bytes :=
  Decoder.escapeByte :: 0x5b :: (parameters ++ [final])

/-- The forms in which a key is sent. -/
inductive SentAs : Key → Bytes → Prop
  | character (char : Char)
      (printed : Decoder.isControl char = false) :
      SentAs { code := .char char } (String.utf8EncodeChar char)
  | enter : SentAs { code := .enter } [0x0d]
  | newline : SentAs { code := .newline } [0x0a]
  | tab : SentAs { code := .tab } [0x09]
  | backspace : SentAs { code := .backspace } [0x7f]
  /-- Four letters are left out: with control they are keys of their own. -/
  | control (letter : Char)
      (isLetter : 'A' ≤ letter ∧ letter ≤ 'Z')
      (isFree : letter ∉ ['H', 'I', 'J', 'M']) :
      SentAs ⟨.char letter, .controlOnly⟩
        [UInt8.ofNat (letter.toNat - 0x40)]
  | lettered (code : KeyCode) (letter : UInt8)
      (named : code.letter? = some letter) :
      SentAs { code } (controlSequence [] letter)
  | letteredWith (code : KeyCode) (letter : UInt8)
      (modifiers : Modifiers)
      (named : code.letter? = some letter)
      (held : modifiers ≠ .empty) :
      SentAs ⟨code, modifiers⟩
        (controlSequence (parameters 1 modifiers) letter)
  | numbered (code : KeyCode) (number : Nat)
      (named : number ∈ code.numbers) :
      SentAs { code } (controlSequence (decimal number) 0x7e)
  | numberedWith (code : KeyCode) (number : Nat)
      (modifiers : Modifiers)
      (named : number ∈ code.numbers) :
      SentAs ⟨code, modifiers⟩
        (controlSequence (parameters number modifiers) 0x7e)
  | application (code : KeyCode) (letter : UInt8)
      (named : code.applicationLetter? = some letter) :
      SentAs { code } [Decoder.escapeByte, 0x4f, letter]

/-- The forms in which keys are sent one after the other. -/
inductive AllSentAs : List Key → Bytes → Prop
  | nil : AllSentAs [] []
  | cons (key : Key) (keys : List Key) (first later : Bytes)
      (sent : SentAs key first)
      (others : AllSentAs keys later) :
      AllSentAs (key :: keys) (first ++ later)

end Key

end TerminalEditor
