import TerminalEditor.Proofs.Text.Ascii
import TerminalEditor.Text.Numeral

/-!
# Characters and numerals read back

The encoding of a character is read back as that character and nothing is left
of it: its lead byte announces the number of its other bytes, and these carry
six bits each.  No other bytes are read as that character.  So a text is read back
as it was written.  A text is read as a number exactly if it is a numeral of that
number and the number is within the limit.
-/

namespace TerminalEditor

namespace Utf8

/-- The byte inside a character that carries the low six bits of a value. -/
def continuation (value : Nat) : UInt8 :=
  UInt8.ofNat (value % 64 + 128)

/-- The first byte of a character, with the mark of its length. -/
def lead
    (mark value : Nat) :
    UInt8 :=
  UInt8.ofNat (value + mark)

theorem toNat_continuation (value : Nat) :
    (continuation value).toNat = value % 64 + 128 := by
  rw [continuation, UInt8.toNat_ofNat']
  omega

theorem toNat_lead
    {mark value : Nat}
    (small : value + mark < 256) :
    (lead mark value).toNat = value + mark := by
  rw [lead, UInt8.toNat_ofNat']
  omega

section Encoding

variable {char : Char}

theorem encodeChar_of_two
    (low : 0x7f < char.toNat)
    (high : char.toNat ≤ 0x7ff) :
    String.utf8EncodeChar char =
      [lead 192 (char.toNat / 64), continuation char.toNat] := by
  have bits : char.toNat / 64 % 32 = char.toNat / 64 := by omega
  have numbered : char.val.toNat = char.toNat := rfl
  rw [String.utf8EncodeChar, numbered, if_neg (by omega), if_pos high,
    bits]
  rfl

theorem encodeChar_of_three
    (low : 0x7ff < char.toNat)
    (high : char.toNat ≤ 0xffff) :
    String.utf8EncodeChar char =
      [lead 224 (char.toNat / 4096), continuation (char.toNat / 64),
        continuation char.toNat] := by
  have bits : char.toNat / 4096 % 16 = char.toNat / 4096 := by omega
  have numbered : char.val.toNat = char.toNat := rfl
  rw [String.utf8EncodeChar, numbered, if_neg (by omega),
    if_neg (by omega), if_pos high, bits]
  rfl

theorem toNat_lt (char : Char) :
    char.toNat < 0x110000 := by
  rcases char.valid with below | ⟨-, above⟩
  · exact Nat.lt_trans below (by decide)
  · exact above

theorem encodeChar_of_four
    (low : 0xffff < char.toNat) :
    String.utf8EncodeChar char =
      [lead 240 (char.toNat / 262144),
        continuation (char.toNat / 4096),
        continuation (char.toNat / 64), continuation char.toNat] := by
  have bounded := toNat_lt char
  have bits : char.toNat / 262144 % 8 = char.toNat / 262144 := by omega
  have numbered : char.val.toNat = char.toNat := rfl
  rw [String.utf8EncodeChar, numbered, if_neg (by omega),
    if_neg (by omega), if_neg (by omega), bits]
  rfl

end Encoding

/-! ## Reading a character -/

section Reading

variable {value later low high : Nat}

/-- The last byte completes the character. -/
theorem charFrom?_last
    (number : Nat)
    (rest : List UInt8)
    (above : low ≤ number % 64 + 128)
    (below : number % 64 + 128 ≤ high) :
    charFrom? (.owing ⟨value, 0, low, high⟩)
        (continuation number :: rest) =
      charFrom? (.complete (Char.ofNat (value * 64 + number % 64)))
        rest := by
  simp only [charFrom?, Owing.continue, toNat_continuation,
    if_pos (And.intro above below), Nat.add_sub_cancel]

/-- A byte in between adds its six bits. -/
theorem charFrom?_continuation
    (number : Nat)
    (rest : List UInt8)
    (above : low ≤ number % 64 + 128)
    (below : number % 64 + 128 ≤ high) :
    charFrom? (.owing ⟨value, later + 1, low, high⟩)
        (continuation number :: rest) =
      charFrom?
        (.owing ⟨value * 64 + number % 64, later, 0x80, 0xbf⟩) rest := by
  simp only [charFrom?, Owing.continue, toNat_continuation,
    if_pos (And.intro above below), Nat.add_sub_cancel]

theorem start_lead_two
    (above : 2 ≤ value)
    (below : value < 32) :
    start (lead 192 value) = .owing ⟨value, 0, 0x80, 0xbf⟩ := by
  have number := toNat_lead (show value + 192 < 256 by omega)
  simp only [start, number, if_neg (show ¬ value + 192 ≤ 127 by omega),
    if_neg (show ¬ value + 192 < 194 by omega),
    if_pos (show value + 192 ≤ 223 by omega), Nat.add_sub_cancel]

theorem start_lead_three
    (below : value < 16) :
    start (lead 224 value) =
      .owing
        ⟨value, 1, if value = 0 then 0xa0 else 0x80,
          if value = 13 then 0x9f else 0xbf⟩ := by
  have number := toNat_lead (show value + 224 < 256 by omega)
  have least : (value + 224 = 224) = (value = 0) := by
    simp
  have surrogate : (value + 224 = 237) = (value = 13) := by
    simp
  simp only [start, number, if_neg (show ¬ value + 224 ≤ 127 by omega),
    if_neg (show ¬ value + 224 < 194 by omega),
    if_neg (show ¬ value + 224 ≤ 223 by omega),
    if_pos (show value + 224 ≤ 239 by omega), Nat.add_sub_cancel, least,
    surrogate]

theorem start_lead_four
    (below : value ≤ 4) :
    start (lead 240 value) =
      .owing
        ⟨value, 2, if value = 0 then 0x90 else 0x80,
          if value = 4 then 0x8f else 0xbf⟩ := by
  have number := toNat_lead (show value + 240 < 256 by omega)
  have least : (value + 240 = 240) = (value = 0) := by
    simp
  have greatest : (value + 240 = 244) = (value = 4) := by
    simp
  simp only [start, number, if_neg (show ¬ value + 240 ≤ 127 by omega),
    if_neg (show ¬ value + 240 < 194 by omega),
    if_neg (show ¬ value + 240 ≤ 223 by omega),
    if_neg (show ¬ value + 240 ≤ 239 by omega),
    if_pos (show value + 240 ≤ 244 by omega), Nat.add_sub_cancel, least,
    greatest]

end Reading

/-- No character is a surrogate. -/
theorem not_surrogate (char : Char) :
    char.toNat < 0xd800 ∨ 0xdfff < char.toNat := by
  rcases char.valid with below | ⟨above, -⟩
  · exact Or.inl below
  · exact Or.inr above

/-- The encoding of a character is read back as the character. -/
theorem char?_encodeChar (char : Char) :
    char? (String.utf8EncodeChar char) = some char := by
  have bounded := toNat_lt char
  have valid := not_surrogate char
  have same : Char.ofNat char.toNat = char := Char.ofNat_toNat char
  by_cases one : char.toNat ≤ 0x7f
  · rw [encodeChar_of_ascii one, char?, start, toNat_ofNat_ascii one,
      if_pos one, charFrom?, same]
  by_cases two : char.toNat ≤ 0x7ff
  · have value : char.toNat / 64 * 64 + char.toNat % 64 = char.toNat := by
      omega
    rw [encodeChar_of_two (by omega) two, char?,
      start_lead_two (by omega) (by omega),
      charFrom?_last _ _ (by omega) (by omega), value, same, charFrom?]
  by_cases three : char.toNat ≤ 0xffff
  · have value :
        (char.toNat / 4096 * 64 + char.toNat / 64 % 64) * 64 +
            char.toNat % 64 =
          char.toNat := by
      omega
    rw [encodeChar_of_three (by omega) three, char?,
      start_lead_three (by omega),
      charFrom?_continuation _ _ (by split <;> omega)
        (by split <;> omega),
      charFrom?_last _ _ (by omega) (by omega), value, same, charFrom?]
  · have value :
        ((char.toNat / 262144 * 64 + char.toNat / 4096 % 64) * 64 +
              char.toNat / 64 % 64) * 64 +
            char.toNat % 64 =
          char.toNat := by
      omega
    rw [encodeChar_of_four (by omega), char?,
      start_lead_four (by omega),
      charFrom?_continuation _ _ (by split <;> omega)
        (by split <;> omega),
      charFrom?_continuation _ _ (by omega) (by omega),
      charFrom?_last _ _ (by omega) (by omega), value, same, charFrom?]

/-! ## Text -/

/-- What a byte makes of the character that is begun, if there is one. -/
def outcome
    (begun : Option Owing)
    (byte : UInt8) :
    Outcome :=
  begun.elim (start byte) (·.continue byte)

section Text

variable
    {begun : Option Owing}
    {byte : UInt8}
    {char : Char}

theorem advance_of_complete
    (ended : outcome begun byte = .complete char) :
    advance begun byte = ([char], none) := by
  cases begun with
  | none =>
    change start byte = .complete char at ended
    rw [advance, begin, ended]
  | some owing =>
    change owing.continue byte = .complete char at ended
    rw [advance, ended]

theorem advance_of_owing
    {owing : Owing}
    (goesOn : outcome begun byte = .owing owing) :
    advance begun byte = ([], some owing) := by
  cases begun with
  | none =>
    change start byte = .owing owing at goesOn
    rw [advance, begin, goesOn]
  | some earlier =>
    change earlier.continue byte = .owing owing at goesOn
    rw [advance, goesOn]

/-- Bytes that are read as one character are shown as it. -/
theorem lossyFrom_of_charFrom?
    {bytes : List UInt8}
    (read : charFrom? (outcome begun byte) bytes = some char)
    (rest : List UInt8) :
    lossyFrom begun (byte :: (bytes ++ rest)) =
      char :: lossyFrom none rest := by
  induction bytes generalizing begun byte with
  | nil =>
    cases ended : outcome begun byte with
    | complete found =>
      rw [ended] at read
      cases read
      rw [List.nil_append, lossyFrom, advance_of_complete ended]
      rfl
    | owing owing =>
      rw [ended] at read
      cases read
    | malformed =>
      rw [ended] at read
      cases read
  | cons next later ih =>
    cases goesOn : outcome begun byte with
    | complete found =>
      rw [goesOn] at read
      cases read
    | owing owing =>
      rw [goesOn] at read
      have shown := @ih (some owing) next read
      rw [lossyFrom, advance_of_owing goesOn]
      exact shown
    | malformed =>
      rw [goesOn] at read
      cases read

/-- Text is read back as it was written. -/
theorem lossy_encode (text : List Char) :
    lossy (encode text) = text := by
  induction text with
  | nil => rfl
  | cons char later ih =>
    have read := char?_encodeChar char
    rw [encode_cons]
    cases encoded : String.utf8EncodeChar char with
    | nil =>
      rw [encoded] at read
      cases read
    | cons byte bytes =>
      rw [encoded] at read
      have shown := @lossyFrom_of_charFrom? none byte char bytes read
      rw [List.cons_append, lossy, shown]
      exact congrArg (char :: ·) ih

/-- Bytes are seen as ASCII text exactly if that text is written so. -/
theorem map_charOf_eq_iff {bytes : List UInt8} {text : List Char}
    (ascii : IsAscii text) :
    bytes.map charOf = text ↔ bytes = encode text := by
  have written : (encode text).map charOf = text := by
    rw [← lossy_of_ascii, lossy_encode]
    intro byte member
    rcases exists_of_mem_encode ascii member with ⟨char, among, number⟩
    rw [number]
    exact ascii char among
  constructor
  · intro seen
    rw [← written] at seen
    exact (List.map_inj_right fun _ _ => charOf_injective).mp seen
  · rintro rfl
    exact written

end Text

/-! ## What is read was written -/

section Written

variable
    {value later low high : Nat}
    {bytes : List UInt8}
    {char : Char}

/-- The bytes inside a character carry six bits each. -/
theorem exists_continuation
    (least : 0x80 ≤ low)
    (greatest : high ≤ 0xbf)
    (read :
      charFrom? (.owing ⟨value, later, low, high⟩) bytes = some char) :
    ∃ (number : Nat) (rest : List UInt8),
      bytes = continuation number :: rest ∧
        number / 64 = value ∧
        low ≤ number % 64 + 128 ∧ number % 64 + 128 ≤ high := by
  cases bytes with
  | nil => cases read
  | cons byte rest =>
    by_cases range : low ≤ byte.toNat ∧ byte.toNat ≤ high
    · let number := value * 64 + (byte.toNat - 0x80)
      have bits : number % 64 + 128 = byte.toNat := by omega
      have same : byte = continuation number := by
        rw [continuation, bits, UInt8.ofNat_toNat]
      refine ⟨number, rest, by rw [← same], by omega, ?_⟩
      rwa [bits]
    · simp only [charFrom?, Owing.continue, if_neg range] at read
      cases rest <;> cases read

theorem eq_of_charFrom?_complete {found : Char}
    (read : charFrom? (.complete found) bytes = some char) :
    bytes = [] ∧ found = char := by
  cases bytes with
  | nil => exact ⟨rfl, Option.some.inj read⟩
  | cons byte rest => cases read

/-- The last byte of a character is followed by no other one. -/
theorem exists_last
    (least : 0x80 ≤ low)
    (greatest : high ≤ 0xbf)
    (read : charFrom? (.owing ⟨value, 0, low, high⟩) bytes = some char) :
    ∃ number : Nat,
      bytes = [continuation number] ∧
        number / 64 = value ∧
        (low ≤ number % 64 + 128 ∧ number % 64 + 128 ≤ high) ∧
        char = Char.ofNat number := by
  rcases exists_continuation least greatest read with
    ⟨number, rest, rfl, rfl, range⟩
  rw [charFrom?_last number rest range.1 range.2,
    Nat.div_add_mod'] at read
  rcases eq_of_charFrom?_complete read with ⟨rfl, rfl⟩
  exact ⟨number, rfl, rfl, range, rfl⟩

/-- The bytes before the last one are read on from. -/
theorem exists_inner
    (least : 0x80 ≤ low)
    (greatest : high ≤ 0xbf)
    (read :
      charFrom? (.owing ⟨value, later + 1, low, high⟩) bytes =
        some char) :
    ∃ (number : Nat) (rest : List UInt8),
      bytes = continuation number :: rest ∧
        number / 64 = value ∧
        (low ≤ number % 64 + 128 ∧ number % 64 + 128 ≤ high) ∧
        charFrom? (.owing ⟨number, later, 0x80, 0xbf⟩) rest =
          some char := by
  rcases exists_continuation least greatest read with
    ⟨number, rest, rfl, rfl, range⟩
  rw [charFrom?_continuation number rest range.1 range.2,
    Nat.div_add_mod'] at read
  exact ⟨number, rest, rfl, rfl, range, read⟩

theorem eq_lead {mark number : Nat} {byte : UInt8}
    (marked : number = byte.toNat - mark)
    (high : mark ≤ byte.toNat) :
    byte = lead mark number := by
  rw [lead, marked, Nat.sub_add_cancel high, UInt8.ofNat_toNat]

section Leads

variable
    {first : UInt8}
    {rest : List UInt8}

theorem eq_encodeChar_of_two
    (wide : 0xc2 ≤ first.toNat ∧ first.toNat ≤ 0xdf)
    (read :
      charFrom? (.owing ⟨first.toNat - 0xc0, 0, 0x80, 0xbf⟩) rest =
        some char) :
    first :: rest = String.utf8EncodeChar char := by
  rcases exists_last (by decide) (by decide) read with
    ⟨number, rfl, leading, -, rfl⟩
  have proper : (Char.ofNat number).toNat = number :=
    toNat_ofNat_scalar (by omega) (by omega)
  rw [encodeChar_of_two (by omega) (by omega), proper,
    ← eq_lead leading (by omega)]

/-- The second of three bytes tells overlong forms and surrogates. -/
theorem eq_encodeChar_of_three
    (wide : 0xe0 ≤ first.toNat ∧ first.toNat ≤ 0xef)
    (read :
      charFrom?
          (.owing
            ⟨first.toNat - 0xe0, 1,
              if first.toNat = 0xe0 then 0xa0 else 0x80,
              if first.toNat = 0xed then 0x9f else 0xbf⟩) rest =
        some char) :
    first :: rest = String.utf8EncodeChar char := by
  rcases exists_inner (by split <;> decide) (by split <;> decide) read with
    ⟨upper, rest, rfl, leading, range, read⟩
  rcases exists_last (by decide) (by decide) read with
    ⟨number, rfl, rfl, -, rfl⟩
  have long : first.toNat = 0xe0 → 0xa0 ≤ number / 64 % 64 + 128 := by
    intro least
    simpa [least] using range.1
  have below : first.toNat = 0xed → number / 64 % 64 + 128 ≤ 0x9f := by
    intro surrogate
    simpa [surrogate] using range.2
  have shifted : number / 4096 = first.toNat - 0xe0 := by omega
  have proper : (Char.ofNat number).toNat = number :=
    toNat_ofNat_scalar (by omega) (by omega)
  rw [encodeChar_of_three (by omega) (by omega), proper,
    ← eq_lead shifted (by omega)]

/-- The second of four bytes tells overlong forms and numbers too large. -/
theorem eq_encodeChar_of_four
    (wide : 0xf0 ≤ first.toNat ∧ first.toNat ≤ 0xf4)
    (read :
      charFrom?
          (.owing
            ⟨first.toNat - 0xf0, 2,
              if first.toNat = 0xf0 then 0x90 else 0x80,
              if first.toNat = 0xf4 then 0x8f else 0xbf⟩) rest =
        some char) :
    first :: rest = String.utf8EncodeChar char := by
  rcases exists_inner (by split <;> decide) (by split <;> decide) read with
    ⟨top, rest, rfl, leading, range, read⟩
  rcases exists_inner (by decide) (by decide) read with
    ⟨upper, rest, rfl, rfl, -, read⟩
  rcases exists_last (by decide) (by decide) read with
    ⟨number, rfl, rfl, -, rfl⟩
  have long :
      first.toNat = 0xf0 → 0x90 ≤ number / 64 / 64 % 64 + 128 := by
    intro least
    simpa [least] using range.1
  have small :
      first.toNat = 0xf4 → number / 64 / 64 % 64 + 128 ≤ 0x8f := by
    intro greatest
    simpa [greatest] using range.2
  have shifted : number / 262144 = first.toNat - 0xf0 := by omega
  have proper : (Char.ofNat number).toNat = number :=
    toNat_ofNat_scalar (by omega) (by omega)
  rw [encodeChar_of_four (by omega), proper,
    ← eq_lead shifted (by omega), Nat.div_div_eq_div_mul]

end Leads

/-- Bytes that are read as a character are the encoding of it. -/
theorem eq_encodeChar_of_char?
    (read : char? bytes = some char) :
    bytes = String.utf8EncodeChar char := by
  cases bytes with
  | nil => cases read
  | cons first rest =>
    rw [char?, start] at read
    split at read
    · next one =>
      rcases eq_of_charFrom?_complete read with ⟨rfl, rfl⟩
      have number := toNat_ofNat (show first.toNat < 0xd800 by omega)
      rw [encodeChar_of_ascii (by omega), number, UInt8.ofNat_toNat]
    split at read
    · cases rest <;> cases read
    split at read
    · exact eq_encodeChar_of_two (by omega) read
    split at read
    · exact eq_encodeChar_of_three (by omega) read
    split at read
    · exact eq_encodeChar_of_four (by omega) read
    · cases rest <;> cases read

/-- A character is read exactly from its encoding. -/
theorem char?_eq_some_iff :
    char? bytes = some char ↔ bytes = String.utf8EncodeChar char := by
  constructor
  · exact eq_encodeChar_of_char?
  · rintro rfl
    exact char?_encodeChar char

end Written

end Utf8

namespace Numeral

/-- A decimal digit has its value. -/
theorem digit?_of_isDigit {char : Char}
    (isDigit : char.isDigit = true) :
    digit? char = some (char.toNat - '0'.toNat) := by
  have range := Char.isDigit_iff_toNat.mp isDigit
  have between : '0' ≤ char ∧ char ≤ '9' := range
  rw [digit?, if_pos between]

/-- Digits written after a number make it no smaller. -/
theorem le_ofDigitChars
    (digits : List Char)
    (value : Nat) :
    value ≤ Nat.ofDigitChars 10 digits value := by
  have positive : 1 ≤ 10 ^ digits.length := Nat.one_le_pow _ _ (by decide)
  have scaled := Nat.mul_le_mul_right value positive
  rw [Nat.ofDigitChars_eq_ofDigitChars_zero]
  omega

/-- Digits read after others give their value if it is within the limit. -/
theorem readDigits_of_isDigit
    {limit value : Nat}
    {digits : List Char}
    (decimal : ∀ char ∈ digits, char.isDigit = true)
    (bounded : Nat.ofDigitChars 10 digits value ≤ limit) :
    readDigits limit value digits =
      .ok (Nat.ofDigitChars 10 digits value) := by
  induction digits generalizing value with
  | nil => rfl
  | cons digit later ih =>
    rw [Nat.ofDigitChars_cons, Nat.mul_comm] at bounded ⊢
    have within :
        value * 10 + (digit.toNat - '0'.toNat) ≤ limit :=
      Nat.le_trans (le_ofDigitChars later _) bounded
    rw [readDigits, digit?_of_isDigit (decimal digit List.mem_cons_self)]
    simp only [if_pos within]
    apply ih
    · intro char member
      exact decimal char (List.mem_cons_of_mem digit member)
    · exact bounded

/-- Only decimal digits have a value. -/
theorem digit?_eq_some_iff {char : Char} {digit : Nat} :
    digit? char = some digit ↔
      char.isDigit = true ∧ digit = char.toNat - '0'.toNat := by
  constructor
  · intro found
    rw [digit?] at found
    split at found
    · next range =>
      cases found
      exact ⟨Char.isDigit_iff_toNat.mpr range, rfl⟩
    · cases found
  · rintro ⟨isDigit, rfl⟩
    exact digit?_of_isDigit isDigit

/--
Reading succeeds exactly for decimal digits whose value is within the limit, and
gives that value.
-/
theorem readDigits_eq_ok_iff
    {limit value result : Nat}
    {digits : List Char}
    (bounded : value ≤ limit) :
    readDigits limit value digits = .ok result ↔
      (∀ char ∈ digits, char.isDigit = true) ∧
        Nat.ofDigitChars 10 digits value = result ∧ result ≤ limit := by
  constructor
  · intro reads
    rw [← and_assoc]
    refine ⟨?_, readDigits_le bounded reads⟩
    induction digits generalizing value with
    | nil =>
      cases reads
      exact ⟨List.forall_mem_nil _, rfl⟩
    | cons char later ih =>
      rw [readDigits] at reads
      split at reads
      · cases reads
      · next digit found =>
        rcases digit?_eq_some_iff.mp found with ⟨isDigit, rfl⟩
        split at reads
        · next within =>
          rw [List.forall_mem_cons, Nat.ofDigitChars_cons, Nat.mul_comm]
          exact ⟨⟨isDigit, (ih within reads).1⟩, (ih within reads).2⟩
        · cases reads
  · rintro ⟨decimal, rfl, within⟩
    exact readDigits_of_isDigit decimal within

/-- A text is read exactly if it is a numeral within the limit. -/
theorem read_eq_ok_iff
    {limit value : Nat}
    {text : List Char} :
    read limit text = .ok value ↔ Denotes text value ∧ value ≤ limit := by
  constructor
  · intro reads
    unfold read at reads
    split at reads
    · cases reads
    · cases reads
    · next digits present =>
      rcases (readDigits_eq_ok_iff (Nat.zero_le _)).mp reads with
        ⟨decimal, rfl, within⟩
      exact ⟨.signed digits present decimal, within⟩
    · next present _ _ =>
      rcases (readDigits_eq_ok_iff (Nat.zero_le _)).mp reads with
        ⟨decimal, rfl, within⟩
      exact ⟨.digits text present decimal, within⟩
  · rintro ⟨denotes, within⟩
    cases denotes with
    | digits digits present decimal =>
      have reads := readDigits_of_isDigit decimal within
      unfold read
      split
      · exact absurd rfl present
      · cases decimal '+' List.mem_cons_self
      · cases decimal '+' List.mem_cons_self
      · exact reads
    | signed digits present decimal =>
      have reads := readDigits_of_isDigit decimal within
      cases digits with
      | nil => exact absurd rfl present
      | cons digit later => exact reads

/-- A number within the limit is read back from its digits. -/
theorem read_toDigits
    {limit number : Nat}
    (bounded : number ≤ limit) :
    read limit (Nat.toDigits 10 number) = .ok number := by
  have denotes : Denotes (Nat.toDigits 10 number) number := by
    have numeral :=
      Denotes.digits (Nat.toDigits 10 number) Nat.toDigits_ne_nil
        fun _ member =>
          Nat.isDigit_of_mem_toDigits (by decide) (by decide) member
    rwa [Nat.ofDigitChars_ten_toDigits] at numeral
  exact read_eq_ok_iff.mpr ⟨denotes, bounded⟩

end Numeral

end TerminalEditor
