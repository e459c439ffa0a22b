/-!
# Terminal modes

What a terminal does with input and output on its way is set by its modes.  The
system keeps them in a form of its own, which the program does not look into: it
lets the system make them raw, says itself how long a read waits, and gives them
back as they were.
-/

namespace TerminalEditor

/-- A part of the modes that is off in raw modes. -/
inductive ModeFlag
  | ignoreBreak
  | signalBreak
  | markErrors
  | stripInput
  | newlineToReturn
  | ignoreReturn
  | returnToNewline
  | flowControl
  | outputProcessing
  | echo
  | echoNewline
  | canonical
  | signals
  | extended
  | parity
  deriving DecidableEq, Repr

/-- A part of the modes that tells when a read is over. -/
inductive ReadControl
  /-- The number of bytes that a read waits for. -/
  | minimum
  /-- The time that a read waits, in tenths of a second. -/
  | time
  deriving DecidableEq, Repr

/-- The form in which a system keeps the modes of a terminal. -/
class TerminalModes (Termios : Type) where
  /-- Makes modes raw. -/
  makeRaw : Termios → Termios
  /-- Sets when a read is over. -/
  setControl : Termios → ReadControl → UInt8 → Termios
  /-- Whether a part of the modes is on. -/
  isOn : Termios → ModeFlag → Bool
  /-- The number of bits in a character. -/
  characterSize : Termios → Nat
  /-- When a read is over. -/
  control : Termios → ReadControl → UInt8

namespace TerminalModes

/--
What is documented of a system: raw modes have every flag off and characters of
eight bits, and a control that is set has its value and leaves the rest alone.
-/
structure AreDocumented
    (Termios : Type)
    [TerminalModes Termios] : Prop where
  isOn_makeRaw (modes : Termios) (flag : ModeFlag) :
    isOn (makeRaw modes) flag = false
  characterSize_makeRaw (modes : Termios) :
    characterSize (makeRaw modes) = 8
  isOn_setControl
    (modes : Termios) (which : ReadControl) (value : UInt8)
    (flag : ModeFlag) :
    isOn (setControl modes which value) flag = isOn modes flag
  characterSize_setControl
    (modes : Termios) (which : ReadControl) (value : UInt8) :
    characterSize (setControl modes which value) = characterSize modes
  control_setControl
    (modes : Termios) (which other : ReadControl) (value : UInt8) :
    control (setControl modes which value) other =
      if other = which then value else control modes other

variable
    {Termios : Type}
    [TerminalModes Termios]

/-- The modes that the program sets: raw, where a read waits for one byte. -/
def raw (modes : Termios) : Termios :=
  setControl (setControl (makeRaw modes) .minimum 1) .time 0

/-- Everything is passed on as it is, byte by byte. -/
structure IsRaw (modes : Termios) : Prop where
  isOff (flag : ModeFlag) : isOn modes flag = false
  characterSize_eq : characterSize modes = 8
  minimum_eq : control modes .minimum = 1
  time_eq : control modes .time = 0

/-- The modes that the program sets are raw. -/
theorem isRaw_raw
    (documented : AreDocumented Termios)
    (modes : Termios) :
    IsRaw (raw modes) := by
  constructor
  · intro flag
    rw [raw, documented.isOn_setControl, documented.isOn_setControl,
      documented.isOn_makeRaw]
  · rw [raw, documented.characterSize_setControl,
      documented.characterSize_setControl,
      documented.characterSize_makeRaw]
  · rw [raw, documented.control_setControl, if_neg nofun,
      documented.control_setControl, if_pos rfl]
  · rw [raw, documented.control_setControl, if_pos rfl]

end TerminalModes

/-- Modes with every part for itself, as a terminal has them at first. -/
structure Modes where
  /-- A break is not read. -/
  ignoreBreak : Bool := false
  /-- A break sends a signal. -/
  signalBreak : Bool := false
  /-- Errors are marked in the input. -/
  markErrors : Bool := false
  /-- The eighth bit of input is cleared. -/
  stripInput : Bool := false
  /-- A newline is read as a carriage return. -/
  newlineToReturn : Bool := false
  /-- A carriage return is not read. -/
  ignoreReturn : Bool := false
  /-- A carriage return is read as a newline. -/
  returnToNewline : Bool := true
  /-- Some keys stop and resume output. -/
  flowControl : Bool := true
  /-- Output is processed. -/
  outputProcessing : Bool := true
  /-- Input is shown. -/
  echo : Bool := true
  /-- A newline is shown even where input is not. -/
  echoNewline : Bool := false
  /-- Input is collected into lines. -/
  canonical : Bool := true
  /-- Some keys send signals. -/
  signals : Bool := true
  /-- Input is processed in further ways. -/
  extended : Bool := true
  /-- Characters have a parity bit. -/
  parity : Bool := false
  /-- The number of bits in a character. -/
  characterSize : Nat := 8
  /-- The number of bytes that a read waits for. -/
  minimum : Nat := 1
  /-- The time that a read waits, in tenths of a second. -/
  time : Nat := 0
  deriving DecidableEq, Repr

namespace Modes

/-- Whether a part of the modes is on. -/
def isOn (modes : Modes) : ModeFlag → Bool
  | .ignoreBreak => modes.ignoreBreak
  | .signalBreak => modes.signalBreak
  | .markErrors => modes.markErrors
  | .stripInput => modes.stripInput
  | .newlineToReturn => modes.newlineToReturn
  | .ignoreReturn => modes.ignoreReturn
  | .returnToNewline => modes.returnToNewline
  | .flowControl => modes.flowControl
  | .outputProcessing => modes.outputProcessing
  | .echo => modes.echo
  | .echoNewline => modes.echoNewline
  | .canonical => modes.canonical
  | .signals => modes.signals
  | .extended => modes.extended
  | .parity => modes.parity

/-- The modes with every flag off and characters of eight bits. -/
def withoutFlags (modes : Modes) : Modes :=
  { modes with
    ignoreBreak := false
    signalBreak := false
    markErrors := false
    stripInput := false
    newlineToReturn := false
    ignoreReturn := false
    returnToNewline := false
    flowControl := false
    outputProcessing := false
    echo := false
    echoNewline := false
    canonical := false
    signals := false
    extended := false
    parity := false
    characterSize := 8 }

/-- The modes with one control set. -/
def withControl
    (modes : Modes)
    (value : UInt8) :
    ReadControl → Modes
  | .minimum => { modes with minimum := value.toNat }
  | .time => { modes with time := value.toNat }

instance : TerminalModes Modes where
  makeRaw := withoutFlags
  setControl modes which value := modes.withControl value which
  isOn
  characterSize
  control
    | modes, .minimum => .ofNat modes.minimum
    | modes, .time => .ofNat modes.time

/-- Modes with every part for itself are as is documented. -/
theorem areDocumented : TerminalModes.AreDocumented Modes where
  isOn_makeRaw _ flag := by cases flag <;> rfl
  characterSize_makeRaw _ := rfl
  isOn_setControl _ which _ flag := by
    cases which <;> cases flag <;> rfl
  characterSize_setControl _ which _ := by cases which <;> rfl
  control_setControl _ which other _ := by
    cases which <;> cases other
    case minimum.minimum => exact UInt8.ofNat_toNat
    case time.time => exact UInt8.ofNat_toNat
    all_goals rfl

end Modes

end TerminalEditor
