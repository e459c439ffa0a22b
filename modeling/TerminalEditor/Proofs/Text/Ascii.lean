import TerminalEditor.Text.Fields
import TerminalEditor.Text.Utf8

/-!
# ASCII text

A byte below `0x80` is one character by itself.  Text made of such characters
is written with one byte for each of them, and its rows are those of its bytes.
-/

namespace TerminalEditor

namespace Text

variable {α β : Type} [DecidableEq α] [DecidableEq β]

/-- A map that keeps separators apart from other items keeps the fields. -/
theorem fields_map
    (separator : α)
    (image : α → β)
    (items : List α)
    (apart :
      ∀ item ∈ items, image item = image separator → item = separator) :
    fields (image separator) (items.map image) =
      (fields separator items).map (·.map image) := by
  induction items with
  | nil => rfl
  | cons item rest ih =>
    have later := ih fun other member =>
      apart other (List.mem_cons_of_mem item member)
    rw [List.map_cons, fields, fields, later]
    by_cases same : item = separator
    · rw [if_pos (congrArg image same), if_pos same]
      rfl
    · have different : image item ≠ image separator := by
        intro equal
        exact same (apart item List.mem_cons_self equal)
      rw [if_neg different, if_neg same]
      cases fields separator rest <;> rfl

end Text

namespace Utf8

/-- The character of an ASCII byte. -/
def charOf (byte : UInt8) : Char :=
  Char.ofNat byte.toNat

/-- A number outside the surrogates is that of a character. -/
theorem toNat_ofNat_scalar {number : Nat}
    (proper : number < 0xd800 ∨ 0xdfff < number)
    (small : number < 0x110000) :
    (Char.ofNat number).toNat = number := by
  have valid : number.isValidChar :=
    proper.imp id fun above => ⟨above, small⟩
  rw [Char.ofNat, dif_pos valid]
  rfl

/-- A number below the surrogates is that of a character. -/
theorem toNat_ofNat {number : Nat}
    (small : number < 0xd800) :
    (Char.ofNat number).toNat = number :=
  toNat_ofNat_scalar (Or.inl small) (by omega)

theorem toNat_charOf {byte : UInt8} :
    (charOf byte).toNat = byte.toNat := by
  have small := byte.toNat_lt
  exact toNat_ofNat (by omega)

theorem charOf_injective {left right : UInt8}
    (same : charOf left = charOf right) :
    left = right := by
  have numbers := congrArg Char.toNat same
  rw [toNat_charOf, toNat_charOf] at numbers
  exact UInt8.toNat_inj.mp numbers

/-- A text whose characters are written as one byte each. -/
def IsAscii (text : List Char) : Prop :=
  ∀ char ∈ text, char.toNat ≤ 0x7f

theorem begin_of_ascii {byte : UInt8}
    (ascii : byte.toNat ≤ 0x7f) :
    begin byte = ([charOf byte], none) := by
  simp only [begin, start, if_pos ascii]
  rfl

/-- ASCII bytes are read one by one. -/
theorem lossy_of_ascii
    (bytes : List UInt8)
    (ascii : ∀ byte ∈ bytes, byte.toNat ≤ 0x7f) :
    lossy bytes = bytes.map charOf := by
  rw [lossy]
  induction bytes with
  | nil => rfl
  | cons byte rest ih =>
    rw [lossyFrom, advance, begin_of_ascii (ascii byte List.mem_cons_self)]
    exact
      congrArg (charOf byte :: ·)
        (ih fun other member =>
          ascii other (List.mem_cons_of_mem byte member))

/-- The characters of a number are digits. -/
theorem toNat_of_mem_toDigits {number : Nat} {digit : Char}
    (member : digit ∈ Nat.toDigits 10 number) :
    0x30 ≤ digit.toNat ∧ digit.toNat ≤ 0x39 :=
  Char.isDigit_iff_toNat.mp
    (Nat.isDigit_of_mem_toDigits (by decide) (by decide) member)

/-- An ASCII character has the number of its byte. -/
theorem toNat_ofNat_ascii {char : Char}
    (ascii : char.toNat ≤ 0x7f) :
    (UInt8.ofNat char.toNat).toNat = char.toNat := by
  rw [UInt8.toNat_ofNat']
  omega

/-- An ASCII character is written as one byte. -/
theorem encodeChar_of_ascii {char : Char}
    (ascii : char.toNat ≤ 0x7f) :
    String.utf8EncodeChar char = [UInt8.ofNat char.toNat] :=
  if_pos ascii

/-- Every byte of written ASCII text has the number of a character. -/
theorem exists_of_mem_encode {text : List Char} {byte : UInt8}
    (ascii : IsAscii text)
    (member : byte ∈ encode text) :
    ∃ char ∈ text, byte.toNat = char.toNat := by
  rcases List.mem_flatMap.mp member with ⟨char, among, inside⟩
  have small := ascii char among
  rw [encodeChar_of_ascii small, List.mem_singleton] at inside
  refine ⟨char, among, ?_⟩
  rw [inside, toNat_ofNat_ascii small]

end Utf8

end TerminalEditor
