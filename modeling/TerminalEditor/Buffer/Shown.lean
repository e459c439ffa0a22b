import TerminalEditor.Buffer.Basic
import TerminalEditor.Text.Quoted
import TerminalEditor.Text.Utf8

/-!
# Gap buffers in readable form

The text of a buffer is read as UTF-8 across the gap.  For inspection the two
sides of the gap are shown apart, each read and quoted on its own.
-/

namespace TerminalEditor.GapBuffer

/-- The text, with a replacement for each malformed part. -/
def text (buffer : GapBuffer) : String :=
  String.ofList (Utf8.lossy buffer.bytes)

/-- The two sides of the gap and the range between them. -/
def shown (buffer : GapBuffer) : String :=
  "GapBuffer \x7b front: " ++ Text.quoted (Utf8.lossy buffer.front) ++
    s!", gap: {buffer.gap.start}..{buffer.gap.stop}, back: " ++
    Text.quoted (Utf8.lossy buffer.back) ++ " \x7d"

end TerminalEditor.GapBuffer
