import TerminalEditor.Bytes
import TerminalEditor.Screen.Style
import TerminalEditor.Screen.Vector
import TerminalEditor.Text.Utf8

/-!
# Drawing commands

A command changes what a terminal shows or how it shows what comes next.  It
is written as a control sequence, or as plain text.  Places are counted from
zero here and from one in a control sequence, the row before the column.
-/

namespace TerminalEditor

/-- One change to a terminal. -/
inductive Command
  | clear
  | home
  | moveTo (place : ScreenVector)
  | showCursor (visible : Bool)
  | foreground (color : Color)
  | background (color : Color)
  | weight (weight : Weight)
  | underline (on : Bool)
  | text (characters : List Char)
  deriving DecidableEq, Repr

namespace Command

/-- The two characters that start a control sequence. -/
def introducer : List Char :=
  ['\x1b', '[']

/-- A number in decimal digits. -/
def decimal (number : UInt16) : List Char :=
  Nat.toDigits 10 number.toNat

/-- The characters that carry out a command. -/
def encode : Command → List Char
  | .clear => introducer ++ ['2', 'J'] ++ introducer ++ ['3', 'J']
  | .home => introducer ++ ['H']
  | .moveTo place =>
    introducer ++ decimal (saturatingSucc place.y) ++ [';'] ++
      decimal (saturatingSucc place.x) ++ ['H']
  | .showCursor true => introducer ++ ['?', '2', '5', 'h']
  | .showCursor false => introducer ++ ['?', '2', '5', 'l']
  | .foreground color => introducer ++ ['3', color.digit, 'm']
  | .background color => introducer ++ ['4', color.digit, 'm']
  | .weight .normal => introducer ++ ['2', '2', 'm']
  | .weight .bold => introducer ++ ['1', 'm']
  | .weight .dim => introducer ++ ['2', 'm']
  | .underline true => introducer ++ ['4', 'm']
  | .underline false => introducer ++ ['2', '4', 'm']
  | .text characters => characters

/-- The characters that carry out some commands in order. -/
def encodeAll (commands : List Command) : List Char :=
  commands.flatMap encode

/-- The commands that set every part of a style. -/
def ofStyle (style : Style) : List Command :=
  [.foreground style.foreground, .background style.background,
    .weight style.weight, .underline style.underline]

/-- The commands that leave a terminal plain, clear and with its cursor. -/
def farewell : List Command :=
  ofStyle .plain ++ [.clear, .home, .showCursor true]

@[simp]
theorem encodeAll_nil : encodeAll [] = [] :=
  rfl

@[simp]
theorem encodeAll_cons
    (command : Command)
    (commands : List Command) :
    encodeAll (command :: commands) =
      command.encode ++ encodeAll commands :=
  rfl

@[simp]
theorem encodeAll_append
    (first second : List Command) :
    encodeAll (first ++ second) =
      encodeAll first ++ encodeAll second :=
  List.flatMap_append

/-- The bytes that carry out some commands. -/
def bytesOf (commands : List Command) : Bytes :=
  Utf8.encode (encodeAll commands)

@[simp]
theorem bytesOf_append
    (first second : List Command) :
    bytesOf (first ++ second) = bytesOf first ++ bytesOf second := by
  rw [bytesOf, encodeAll_append]
  exact List.flatMap_append

end Command

end TerminalEditor
