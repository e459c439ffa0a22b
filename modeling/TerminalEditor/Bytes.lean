/-!
# Bytes

Text, keys and output are runs of bytes.
-/

namespace TerminalEditor

/-- A run of bytes. -/
abbrev Bytes : Type :=
  List UInt8

/-- The byte that ends a row of text. -/
def newline : UInt8 :=
  0x0a

end TerminalEditor
