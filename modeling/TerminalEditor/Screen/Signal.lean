import TerminalEditor.Screen.Style

/-!
# Signals to a terminal

What is sent to a terminal is a row of signals: characters that are to be
shown, and control sequences.  A control sequence is an escape character, an
opening bracket, parameters, and one final character.  Reading takes one signal
at a time and waits while a control sequence lacks its final character.
-/

namespace TerminalEditor

/-- One unit of what a terminal is sent. -/
inductive Signal
  /-- A character to show. -/
  | shown (char : Char)
  /-- A control sequence; one whose parameters follow `?` is `isPrivate`. -/
  | control (isPrivate : Bool) (parameters : List Nat) (final : Char)
  deriving DecidableEq, Repr

namespace Signal

/-- Whether a character ends a control sequence. -/
def isFinal (char : Char) : Bool :=
  '@' ≤ char && char ≤ '~'

/-- The parameters between semicolons, where a missing one counts as zero. -/
def parametersFrom
    (number : Nat) :
    List Char → List Nat
  | [] => [number]
  | char :: rest =>
    if char = ';' then
      number :: parametersFrom 0 rest
    else
      parametersFrom (10 * number + (char.toNat - '0'.toNat)) rest

/-- The control sequence with these characters before its final one. -/
def ofBody
    (body : List Char)
    (final : Char) :
    Signal :=
  match body with
  | [] => .control false [] final
  | '?' :: body => .control true (parametersFrom 0 body) final
  | body => .control false (parametersFrom 0 body) final

/-- Takes the first signal off some characters, if they hold one. -/
def read? : List Char → Option (Signal × List Char)
  | [] => none
  | '\x1b' :: '[' :: rest =>
    match rest.dropWhile (!isFinal ·) with
    | [] => none
    | final :: later =>
      some (ofBody (rest.takeWhile (!isFinal ·)) final, later)
  | char :: rest => some (.shown char, rest)

/-- Every signal takes at least one character. -/
theorem read?_length_lt
    {characters rest : List Char}
    {signal : Signal}
    (taken : read? characters = some (signal, rest)) :
    rest.length < characters.length := by
  unfold read? at taken
  split at taken
  · cases taken
  · next body =>
    split at taken
    · cases taken
    · next final later found =>
      cases taken
      have shorter :=
        (List.dropWhile_sublist (!isFinal ·) (l := body)).length_le
      rw [found, List.length_cons] at shorter
      simp only [List.length_cons]
      omega
  · cases taken
    exact Nat.lt_succ_self _

/-- All signals that some characters hold. -/
def readAll (characters : List Char) : List Signal :=
  match taken : read? characters with
  | none => []
  | some (signal, rest) =>
    have := read?_length_lt taken
    signal :: readAll rest
termination_by characters.length

end Signal

end TerminalEditor
