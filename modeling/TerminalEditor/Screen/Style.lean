/-!
# Styles of text

A style is a text colour, a background colour, a weight and an underline.
-/

namespace TerminalEditor

/-- The eight colours of a terminal, and the one it uses by default. -/
inductive Color
  | black
  | red
  | green
  | yellow
  | blue
  | magenta
  | cyan
  | white
  | standard
  deriving DecidableEq, Repr

/-- The digit that names a colour. -/
def Color.digit : Color → Char
  | .black => '0'
  | .red => '1'
  | .green => '2'
  | .yellow => '3'
  | .blue => '4'
  | .magenta => '5'
  | .cyan => '6'
  | .white => '7'
  | .standard => '9'

/-- How heavy text is drawn. -/
inductive Weight
  | normal
  | bold
  | dim
  deriving DecidableEq, Repr

/-- How text is drawn. -/
structure Style where
  foreground : Color := .standard
  background : Color := .standard
  weight : Weight := .normal
  underline : Bool := false
  deriving DecidableEq, Repr

/-- The style of a terminal that was never changed. -/
def Style.plain : Style :=
  {}

/-- Dark text on a light ground, for status lines. -/
def Style.inverted : Style :=
  { foreground := .black
    background := .white }

end TerminalEditor
