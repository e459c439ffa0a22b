/-!
# Reading UTF-8

A character is written as a lead byte, which announces how many bytes follow
and what range the next one lies in, and then those bytes.  Text is read byte
by byte.  A byte that cannot continue the character begun ends it as malformed
and is read again as the start of the next one, so each malformed part is as
long as a well-formed one could have been.
-/

namespace TerminalEditor.Utf8

/-- The character that stands for a malformed part. -/
def replacement : Char :=
  '\uFFFD'

/-- A character that is begun and still owes bytes. -/
structure Owing where
  /-- The bits read so far. -/
  value : Nat
  /-- The number of bytes owed after the next one. -/
  later : Nat
  /-- The least admissible next byte. -/
  low : Nat
  /-- The greatest admissible next byte. -/
  high : Nat
  deriving DecidableEq, Repr

/-- What a byte makes of the bytes before it. -/
inductive Outcome
  | complete (char : Char)
  | owing (owing : Owing)
  | malformed
  deriving DecidableEq, Repr

/-- The outcome of a byte where a character starts. -/
def start (byte : UInt8) : Outcome :=
  let lead := byte.toNat
  if lead ≤ 0x7f then
    .complete (Char.ofNat lead)
  else if lead < 0xc2 then
    .malformed
  else if lead ≤ 0xdf then
    .owing ⟨lead - 0xc0, 0, 0x80, 0xbf⟩
  else if lead ≤ 0xef then
    .owing
      ⟨lead - 0xe0, 1,
        if lead = 0xe0 then 0xa0 else 0x80,
        if lead = 0xed then 0x9f else 0xbf⟩
  else if lead ≤ 0xf4 then
    .owing
      ⟨lead - 0xf0, 2,
        if lead = 0xf0 then 0x90 else 0x80,
        if lead = 0xf4 then 0x8f else 0xbf⟩
  else
    .malformed

/-- The outcome of a byte inside a character. -/
def Owing.continue
    (owing : Owing)
    (byte : UInt8) :
    Outcome :=
  if owing.low ≤ byte.toNat ∧ byte.toNat ≤ owing.high then
    let value := owing.value * 64 + (byte.toNat - 0x80)
    match owing.later with
    | 0 => .complete (Char.ofNat value)
    | later + 1 => .owing ⟨value, later, 0x80, 0xbf⟩
  else
    .malformed

/-- The characters that a byte completes where a character starts. -/
def begin
    (byte : UInt8) :
    List Char × Option Owing :=
  match start byte with
  | .complete char => ([char], none)
  | .owing owing => ([], some owing)
  | .malformed => ([replacement], none)

/--
The characters that a byte completes after the bytes of a character that is
begun, if there is one.
-/
def advance
    (begun : Option Owing)
    (byte : UInt8) :
    List Char × Option Owing :=
  match begun with
  | none => begin byte
  | some owing =>
    match owing.continue byte with
    | .complete char => ([char], none)
    | .owing owing => ([], some owing)
    | .malformed => (replacement :: (begin byte).1, (begin byte).2)

/-- The text of some bytes after the ones of a character that is begun. -/
def lossyFrom (begun : Option Owing) : List UInt8 → List Char
  | [] => begun.elim [] fun _ => [replacement]
  | byte :: rest =>
    let step := advance begun byte
    step.1 ++ lossyFrom step.2 rest

/-- The text of some bytes, with one replacement for each malformed part. -/
def lossy (bytes : List UInt8) : List Char :=
  lossyFrom none bytes

/-- The one character that is left when all bytes were read. -/
def charFrom? : Outcome → List UInt8 → Option Char
  | .complete char, [] => some char
  | .owing owing, byte :: rest => charFrom? (owing.continue byte) rest
  | _, _ => none

/-- The character whose encoding is exactly these bytes. -/
def char? : List UInt8 → Option Char
  | [] => none
  | byte :: rest => charFrom? (start byte) rest

/-- The encoding of a text. -/
def encode (text : List Char) : List UInt8 :=
  text.flatMap String.utf8EncodeChar

@[simp]
theorem encode_nil : encode [] = [] :=
  rfl

@[simp]
theorem encode_cons
    (char : Char)
    (text : List Char) :
    encode (char :: text) = String.utf8EncodeChar char ++ encode text :=
  rfl

end TerminalEditor.Utf8
