import TerminalEditor.Screen.Command
import TerminalEditor.Screen.Signal

/-!
# The signals of commands

What commands write is read back as signals, one command after the other.  A
number is read back from its decimal digits, and text is shown character by
character as long as no escape character is in it.
-/

namespace TerminalEditor

namespace Signal

theorem readAll_nil : readAll [] = [] := by
  rw [readAll]
  rfl

theorem readAll_of_some {characters rest : List Char} {signal : Signal}
    (taken : read? characters = some (signal, rest)) :
    readAll characters = signal :: readAll rest := by
  rw [readAll]
  split
  · next none =>
    rw [taken] at none
    cases none
  · next other =>
    rw [taken] at other
    cases other
    rfl

/-- A character is shown unless it is the escape character. -/
theorem readAll_cons {char : Char}
    (rest : List Char)
    (plain : char ≠ '\x1b') :
    readAll (char :: rest) = .shown char :: readAll rest := by
  apply readAll_of_some
  unfold read?
  split
  · next impossible => cases impossible
  · next impossible =>
    cases impossible
    contradiction
  · next same =>
    cases same
    rfl

/-- A control sequence is read up to its final character. -/
theorem readAll_control
    (body : List Char)
    (final : Char)
    (rest : List Char)
    (inner : body.all (!isFinal ·) = true)
    (ends : isFinal final = true) :
    readAll (Command.introducer ++ (body ++ final :: rest)) =
      ofBody body final :: readAll rest := by
  apply readAll_of_some
  have parameters : ∀ char ∈ body, (!isFinal char) = true :=
    List.all_eq_true.mp inner
  have passed :
      (body ++ final :: rest).dropWhile (!isFinal ·) = final :: rest := by
    rw [List.dropWhile_append_of_pos parameters,
      List.dropWhile_cons_of_neg (by simp [ends])]
  have kept :
      (body ++ final :: rest).takeWhile (!isFinal ·) = body := by
    rw [List.takeWhile_append_of_pos parameters,
      List.takeWhile_cons_of_neg (by simp [ends]), List.append_nil]
  simp only [Command.introducer, List.cons_append, List.nil_append, read?,
    passed, kept]

/-- Digits are read as the number that they write. -/
theorem parametersFrom_digits
    (digits : List Char)
    (number : Nat)
    (rest : List Char)
    (decimal : ∀ char ∈ digits, char.isDigit = true) :
    parametersFrom number (digits ++ rest) =
      parametersFrom (Nat.ofDigitChars 10 digits number) rest := by
  induction digits generalizing number with
  | nil => rfl
  | cons digit later ih =>
    have isDigit := decimal digit List.mem_cons_self
    have different : digit ≠ ';' := by
      rintro rfl
      cases isDigit
    rw [List.cons_append, parametersFrom, if_neg different,
      ih _ fun char member =>
        decimal char (List.mem_cons_of_mem digit member),
      Nat.ofDigitChars_cons]

/-- No digit ends a control sequence. -/
theorem isFinal_of_isDigit {char : Char}
    (isDigit : char.isDigit = true) :
    isFinal char = false := by
  have small : char.toNat ≤ 57 := (Char.isDigit_iff_toNat.mp isDigit).2
  have notAbove : ¬ '@' ≤ char := by
    intro above
    have large : 64 ≤ char.toNat := above
    omega
  rw [isFinal, decide_eq_false notAbove, Bool.false_and]

end Signal

/-- The number that a colour has in a control sequence. -/
def Color.number (color : Color) : Nat :=
  color.digit.toNat - '0'.toNat

/-- The number that sets a weight. -/
def Weight.number : Weight → Nat
  | .normal => 22
  | .bold => 1
  | .dim => 2

namespace Command

/-- The signals that carry out a command. -/
def signals : Command → List Signal
  | .clear => [.control false [2] 'J', .control false [3] 'J']
  | .home => [.control false [] 'H']
  | .moveTo place =>
    [.control false
      [(saturatingSucc place.y).toNat, (saturatingSucc place.x).toNat] 'H']
  | .showCursor true => [.control true [25] 'h']
  | .showCursor false => [.control true [25] 'l']
  | .foreground color => [.control false [30 + color.number] 'm']
  | .background color => [.control false [40 + color.number] 'm']
  | .weight level => [.control false [level.number] 'm']
  | .underline true => [.control false [4] 'm']
  | .underline false => [.control false [24] 'm']
  | .text characters => characters.map .shown

/-- A command whose text holds no escape character. -/
def IsClean : Command → Prop
  | .text characters => '\x1b' ∉ characters
  | _ => True

theorem isDigit_of_mem_decimal {number : UInt16} {char : Char}
    (member : char ∈ decimal number) :
    char.isDigit = true :=
  Nat.isDigit_of_mem_toDigits (by decide) (by decide) member

/-- The two numbers of a place are read back from their digits. -/
theorem parametersFrom_place (row column : UInt16) :
    Signal.parametersFrom 0 (decimal row ++ ';' :: decimal column) =
      [row.toNat, column.toNat] := by
  have digits : ∀ (number : UInt16) (char : Char),
      char ∈ decimal number → char.isDigit = true :=
    fun _ _ member => isDigit_of_mem_decimal member
  have value : ∀ number : UInt16,
      Nat.ofDigitChars 10 (decimal number) 0 = number.toNat :=
    fun _ => Nat.ofDigitChars_ten_toDigits
  rw [Signal.parametersFrom_digits _ _ _ (digits row), value,
    Signal.parametersFrom, if_pos rfl,
    ← List.append_nil (decimal column),
    Signal.parametersFrom_digits _ _ _ (digits column), value]
  rfl

theorem ofBody_place (row column : UInt16) :
    Signal.ofBody (decimal row ++ ';' :: decimal column) 'H' =
      .control false [row.toNat, column.toNat] 'H' := by
  rw [← parametersFrom_place]
  cases digits : decimal row with
  | nil => exact absurd digits Nat.toDigits_ne_nil
  | cons first later =>
    have isDigit : first.isDigit = true :=
      isDigit_of_mem_decimal (digits ▸ List.mem_cons_self)
    rw [List.cons_append]
    unfold Signal.ofBody
    split
    · next impossible => cases impossible
    · next same =>
      cases same
      cases isDigit
    · rfl

/-- A moved cursor is read back as its place. -/
theorem readAll_moveTo
    (place : ScreenVector)
    (rest : List Char) :
    Signal.readAll ((moveTo place).encode ++ rest) =
      (moveTo place).signals ++ Signal.readAll rest := by
  have digits : ∀ number : UInt16,
      (decimal number).all (!Signal.isFinal ·) = true := by
    intro number
    apply List.all_eq_true.mpr
    intro char member
    rw [Signal.isFinal_of_isDigit (isDigit_of_mem_decimal member)]
    rfl
  have inner :
      (decimal (saturatingSucc place.y) ++
        ';' :: decimal (saturatingSucc place.x)).all
          (!Signal.isFinal ·) = true := by
    rw [List.all_append, List.all_cons, digits, digits]
    rfl
  have read := Signal.readAll_control _ 'H' rest inner rfl
  rw [ofBody_place] at read
  simpa [encode, signals] using read

/-- Text is read back character by character. -/
theorem readAll_text
    (characters rest : List Char)
    (clean : '\x1b' ∉ characters) :
    Signal.readAll (characters ++ rest) =
      characters.map .shown ++ Signal.readAll rest := by
  induction characters with
  | nil => rfl
  | cons char later ih =>
    rw [List.mem_cons, not_or] at clean
    rw [List.cons_append, Signal.readAll_cons _ (Ne.symm clean.1),
      ih clean.2]
    rfl

/-- Each command is read back as its signals. -/
theorem readAll_encode
    (command : Command)
    (rest : List Char)
    (clean : command.IsClean) :
    Signal.readAll (command.encode ++ rest) =
      command.signals ++ Signal.readAll rest := by
  cases command with
  | clear =>
    have first :=
      Signal.readAll_control ['2'] 'J'
        (introducer ++ (['3'] ++ 'J' :: rest)) rfl rfl
    rw [Signal.readAll_control ['3'] 'J' rest rfl rfl] at first
    exact first
  | home => exact Signal.readAll_control [] 'H' rest rfl rfl
  | moveTo place => exact readAll_moveTo place rest
  | showCursor visible =>
    cases visible with
    | true =>
      exact
        Signal.readAll_control ['?', '2', '5'] 'h' rest rfl rfl
    | false =>
      exact
        Signal.readAll_control ['?', '2', '5'] 'l' rest rfl rfl
  | foreground color =>
    have inner :
        ['3', color.digit].all (!Signal.isFinal ·) = true := by
      cases color <;> rfl
    have value : Signal.ofBody ['3', color.digit] 'm' =
        .control false [30 + color.number] 'm' := by
      cases color <;> rfl
    have read :=
      Signal.readAll_control ['3', color.digit] 'm' rest inner rfl
    rw [value] at read
    exact read
  | background color =>
    have inner :
        ['4', color.digit].all (!Signal.isFinal ·) = true := by
      cases color <;> rfl
    have value : Signal.ofBody ['4', color.digit] 'm' =
        .control false [40 + color.number] 'm' := by
      cases color <;> rfl
    have read :=
      Signal.readAll_control ['4', color.digit] 'm' rest inner rfl
    rw [value] at read
    exact read
  | weight weight =>
    cases weight with
    | normal =>
      exact Signal.readAll_control ['2', '2'] 'm' rest rfl rfl
    | bold => exact Signal.readAll_control ['1'] 'm' rest rfl rfl
    | dim => exact Signal.readAll_control ['2'] 'm' rest rfl rfl
  | underline on =>
    cases on with
    | true => exact Signal.readAll_control ['4'] 'm' rest rfl rfl
    | false =>
      exact Signal.readAll_control ['2', '4'] 'm' rest rfl rfl
  | text characters => exact readAll_text characters rest clean

/-- Commands are read back as their signals, in order. -/
theorem readAll_encodeAll
    (commands : List Command)
    (clean : ∀ command ∈ commands, command.IsClean) :
    Signal.readAll (encodeAll commands) = commands.flatMap signals := by
  induction commands with
  | nil => exact Signal.readAll_nil
  | cons command later ih =>
    rw [encodeAll_cons,
      readAll_encode command _ (clean command List.mem_cons_self),
      ih fun other member =>
        clean other (List.mem_cons_of_mem command member)]
    rfl

end Command

end TerminalEditor
