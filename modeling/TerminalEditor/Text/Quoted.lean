import TerminalEditor.Text.GraphemeExtend
import TerminalEditor.Text.Unprintable

/-!
# Quoted text

A quoted text stands between quotes and shows every character so that it can
be told from its neighbours.  The backslash, the quotes in use and the usual
control characters get a backslash and a letter; a character without a visible
form, or one that would attach to the character before it, is shown by its
code point.
-/

namespace TerminalEditor.Text

/-- A code point as lower-case hexadecimal digits in `\u{…}`. -/
def codePoint (char : Char) : List Char :=
  "\\u\x7b".toList ++ Nat.toDigits 16 char.toNat ++ ['\x7d']

/-- One character as it stands in a text where some quotes are escaped. -/
def escaped
    (quotes : List Char)
    (char : Char) :
    List Char :=
  if char = '\x00' then
    ['\\', '0']
  else if char = '\t' then
    ['\\', 't']
  else if char = '\r' then
    ['\\', 'r']
  else if char = '\n' then
    ['\\', 'n']
  else if char = '\\' ∨ char ∈ quotes then
    ['\\', char]
  else if ' ' ≤ char ∧ char ≤ '~' then
    [char]
  else if extendsGrapheme char || isUnprintable char then
    codePoint char
  else
    [char]

/-- A text between double quotes, in which single ones stand as they are. -/
def quoted (text : List Char) : String :=
  String.ofList ('"' :: text.flatMap (escaped ['"']) ++ ['"'])

/-- A path between double quotes, in which quotes of both kinds are escaped. -/
def quotedPath (path : List Char) : String :=
  String.ofList ('"' :: path.flatMap (escaped ['"', '\'']) ++ ['"'])

/-- A character between single quotes. -/
def quotedChar (char : Char) : String :=
  String.ofList ('\'' :: escaped ['\''] char ++ ['\''])

end TerminalEditor.Text
