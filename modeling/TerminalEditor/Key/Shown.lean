import TerminalEditor.Key.Basic
import TerminalEditor.Text.Quoted

/-!
# Events as the log shows them

The log names every part of an event: the key code with the character or the
number it carries, and the modifiers in the order of their bits.
-/

namespace TerminalEditor

/-- The name of a key code. -/
def KeyCode.shown : KeyCode → String
  | .char character => "Char(" ++ Text.quotedChar character ++ ")"
  | .function number => "Fn(" ++ toString number ++ ")"
  | .tab => "Tab"
  | .newline => "Newline"
  | .enter => "Return"
  | .escape => "Escape"
  | .up => "Up"
  | .down => "Down"
  | .right => "Right"
  | .left => "Left"
  | .endKey => "End"
  | .home => "Home"
  | .insert => "Insert"
  | .delete => "Delete"
  | .backspace => "Backspace"
  | .pageUp => "PageUp"
  | .pageDown => "PageDown"

/-- The names of the modifiers held, or the number zero if there is none. -/
def Modifiers.shown (modifiers : Modifiers) : String :=
  let held :=
    [(modifiers.shift, "SHIFT"), (modifiers.alt, "ALT"),
      (modifiers.control, "CTRL"), (modifiers.metaKey, "META")].filterMap
      fun entry => if entry.1 then some entry.2 else none
  let names :=
    if held.isEmpty then "0x0" else " | ".intercalate held
  "Modifiers(" ++ names ++ ")"

/-- An event with all its parts. -/
def Event.shown : Event → String
  | .key pressed =>
    "Key(KeyEvent \x7b key_code: " ++ pressed.code.shown ++
      ", modifiers: " ++ pressed.modifiers.shown ++ " \x7d)"
  | .unknown => "Unknown"

end TerminalEditor
