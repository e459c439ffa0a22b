/-!
# Keys and events

A key is a key code together with the modifiers held while it was pressed.  An
event is a key, or a mark that something arrived that is no known key.
-/

namespace TerminalEditor

/-- The keys of a keyboard, without modifiers. -/
inductive KeyCode
  | char (char : Char)
  | function (number : Nat)
  | tab
  | newline
  | enter
  | escape
  | up
  | down
  | right
  | left
  | endKey
  | home
  | insert
  | delete
  | backspace
  | pageUp
  | pageDown
  deriving DecidableEq, Repr

/-- The set of modifiers that are held. -/
structure Modifiers where
  shift : Bool := false
  alt : Bool := false
  control : Bool := false
  metaKey : Bool := false
  deriving DecidableEq, Repr

namespace Modifiers

/-- No modifier is held. -/
def empty : Modifiers :=
  {}

/-- The control modifier alone. -/
def controlOnly : Modifiers :=
  { control := true }

/-- The set as a number below 16: shift 1, alt 2, control 4, meta 8. -/
def bits (modifiers : Modifiers) : Nat :=
  modifiers.shift.toNat + 2 * modifiers.alt.toNat +
    4 * modifiers.control.toNat + 8 * modifiers.metaKey.toNat

/-- The set that the low four bits of a number stand for. -/
def ofBits (bits : Nat) : Modifiers where
  shift := bits.testBit 0
  alt := bits.testBit 1
  control := bits.testBit 2
  metaKey := bits.testBit 3

/-- Whether no modifier but shift is held. -/
def atMostShift (modifiers : Modifiers) : Bool :=
  !modifiers.alt && !modifiers.control && !modifiers.metaKey

/-- Reading the bits of a set gives the set back. -/
@[simp]
theorem ofBits_bits
    (modifiers : Modifiers) :
    ofBits modifiers.bits = modifiers := by
  obtain ⟨shift, alt, control, metaKey⟩ := modifiers
  cases shift <;> cases alt <;> cases control <;> cases metaKey <;> rfl

theorem bits_lt
    (modifiers : Modifiers) :
    modifiers.bits < 16 := by
  obtain ⟨shift, alt, control, metaKey⟩ := modifiers
  cases shift <;> cases alt <;> cases control <;> cases metaKey <;> decide

/-- A number stands for a set if it is the number of the set in its low bits. -/
theorem ofBits_eq_iff
    {number : Nat}
    {modifiers : Modifiers} :
    ofBits number = modifiers ↔
      ∃ further : Nat, number = 16 * further + modifiers.bits := by
  constructor
  · rintro rfl
    refine ⟨number / 16, ?_⟩
    simp only [bits, ofBits, Nat.toNat_testBit]
    omega
  · rintro ⟨further, rfl⟩
    have low (index : Nat) (isLow : index < 4) :
        (16 * further + modifiers.bits).testBit index =
          modifiers.bits.testBit index :=
      (Nat.testBit_two_pow_mul_add further modifiers.bits_lt index).trans
        (if_pos isLow)
    rw [ofBits, low 0 (by decide), low 1 (by decide), low 2 (by decide),
      low 3 (by decide)]
    exact ofBits_bits modifiers

end Modifiers

/-- A key code with the modifiers held. -/
structure Key where
  code : KeyCode
  modifiers : Modifiers := Modifiers.empty
  deriving DecidableEq, Repr

/-- What arrived from the keyboard. -/
inductive Event
  | key (key : Key)
  | unknown
  deriving DecidableEq, Repr

/-- The event of a key without modifiers. -/
def Event.plain (code : KeyCode) : Event :=
  .key { code }

end TerminalEditor
