import TerminalEditor.Buffer.Motion
import TerminalEditor.Key.Basic

/-!
# Actions and the keys that ask for them

A printable ASCII character, with at most shift held, is typed; so every byte
of a text typed in is one character and one column.  All other keys act only
with exactly the modifiers they are listed with.
-/

namespace TerminalEditor

/-- What the editor can be asked to do. -/
inductive Action
  | insert (char : Char)
  | move (motion : Motion)
  | pageUp
  | pageDown
  | quit
  deriving DecidableEq, Repr

/-- Whether a character may be typed into a text. -/
def isPrintable (char : Char) : Bool :=
  ' ' ≤ char && char ≤ '~'

theorem isPrintable_iff {char : Char} :
    isPrintable char = true ↔
      0x20 ≤ char.toNat ∧ char.toNat ≤ 0x7e := by
  rw [isPrintable, Bool.and_eq_true, decide_eq_true_eq,
    decide_eq_true_eq]
  rfl

/-- A position behind every text. -/
def Position.farthest : Position :=
  ⟨Capacity.countLimit - 1, Capacity.countLimit - 1⟩

namespace Action

/-- The action of a key without modifiers. -/
def ofPlain? : KeyCode → Option Action
  | .left => some (.move .left)
  | .right => some (.move .right)
  | .up => some (.move .up)
  | .down => some (.move .down)
  | .home => some (.move .lineStart)
  | .endKey => some (.move .lineEnd)
  | .pageUp => some .pageUp
  | .pageDown => some .pageDown
  | .enter => some (.insert '\n')
  | .newline => some (.insert '\n')
  | _ => none

/-- The action of a key with control held and nothing else. -/
def ofControl? : KeyCode → Option Action
  | .home => some (.move (.to .origin))
  | .endKey => some (.move (.to .farthest))
  | .char 'Q' => some .quit
  | _ => none

/-- The action that a key asks for. -/
def ofKey? (key : Key) : Option Action :=
  match key.code with
  | .char char =>
    if key.modifiers.atMostShift then
      if isPrintable char then some (.insert char) else none
    else if key.modifiers = .controlOnly then
      ofControl? key.code
    else
      none
  | code =>
    if key.modifiers = .empty then
      ofPlain? code
    else if key.modifiers = .controlOnly then
      ofControl? code
    else
      none

/-- The action that an event asks for. -/
def ofEvent? : Event → Option Action
  | .key key => ofKey? key
  | .unknown => none

end Action

end TerminalEditor
