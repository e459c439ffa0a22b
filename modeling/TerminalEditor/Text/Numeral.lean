/-!
# Decimal numerals

A numeral is a run of decimal digits, after at most one plus sign, whose value
stays within a limit.  It is read from the left, and the first character that
is wrong decides how reading fails.
-/

namespace TerminalEditor.Numeral

/-- The reason why a text is not a numeral. -/
inductive Failure
  /-- There is no character at all. -/
  | empty
  /-- A character is not a digit, or no digit follows the sign. -/
  | invalidDigit
  /-- The value passes the limit. -/
  | tooLarge
  deriving DecidableEq, Repr

/-- The text that reports a failure. -/
def Failure.message : Failure → String
  | .empty => "cannot parse integer from empty string"
  | .invalidDigit => "invalid digit found in string"
  | .tooLarge => "number too large to fit in target type"

/-- The value of a decimal digit. -/
def digit? (char : Char) : Option Nat :=
  if '0' ≤ char ∧ char ≤ '9' then
    some (char.toNat - '0'.toNat)
  else
    none

/-- Reads digits after ones of value `value`. -/
def readDigits
    (limit value : Nat) :
    List Char → Except Failure Nat
  | [] => .ok value
  | char :: rest =>
    match digit? char with
    | none => .error .invalidDigit
    | some digit =>
      if value * 10 + digit ≤ limit then
        readDigits limit (value * 10 + digit) rest
      else
        .error .tooLarge

/-- Reads a numeral whose value is at most `limit`. -/
def read
    (limit : Nat) :
    List Char → Except Failure Nat
  | [] => .error .empty
  | ['+'] => .error .invalidDigit
  | '+' :: digits => readDigits limit 0 digits
  | digits => readDigits limit 0 digits

/-- The numerals of a value: decimal digits after at most one plus sign. -/
inductive Denotes : List Char → Nat → Prop
  | digits (digits : List Char)
      (present : digits ≠ [])
      (decimal : ∀ char ∈ digits, char.isDigit = true) :
      Denotes digits (Nat.ofDigitChars 10 digits 0)
  | signed (digits : List Char)
      (present : digits ≠ [])
      (decimal : ∀ char ∈ digits, char.isDigit = true) :
      Denotes ('+' :: digits) (Nat.ofDigitChars 10 digits 0)

/-- Digits read after others never give less than those. -/
theorem readDigits_le
    {limit value result : Nat}
    {digits : List Char}
    (bounded : value ≤ limit)
    (reads : readDigits limit value digits = .ok result) :
    result ≤ limit := by
  induction digits generalizing value with
  | nil =>
    cases reads
    exact bounded
  | cons char rest hypothesis =>
    unfold readDigits at reads
    split at reads
    · cases reads
    · split at reads
      · next fits => exact hypothesis fits reads
      · cases reads

end TerminalEditor.Numeral
