import TerminalEditor.Buffer.Document
import TerminalEditor.Buffer.Reading
import TerminalEditor.Editor.Loop
import TerminalEditor.Key.Encoding
import TerminalEditor.Key.Grammar
import TerminalEditor.Main
import TerminalEditor.Program.Console
import TerminalEditor.Screen.BoundedSink
import TerminalEditor.Screen.Display
import TerminalEditor.Proofs.Buffer.Layout
import TerminalEditor.Proofs.Text.Runs
import TerminalEditor.Proofs.Buffer.Holding
import TerminalEditor.Proofs.Buffer.Landing
import TerminalEditor.Proofs.Buffer.Navigation
import TerminalEditor.Proofs.Buffer.Integrity
import TerminalEditor.Proofs.Buffer.Growth
import TerminalEditor.Proofs.Buffer.Places
import TerminalEditor.Proofs.Buffer.RowMoves
import TerminalEditor.Proofs.Buffer.BothEnds
import TerminalEditor.Proofs.Key.Progress
import TerminalEditor.Proofs.Key.Written
import TerminalEditor.Proofs.Key.Boundaries
import TerminalEditor.Proofs.Editor.Typing
import TerminalEditor.Proofs.Editor.Window
import TerminalEditor.Proofs.Editor.Prose
import TerminalEditor.Proofs.Input.Account
import TerminalEditor.Proofs.Input.Closing
import TerminalEditor.Proofs.Screen.Delivery
import TerminalEditor.Proofs.Screen.Recovery
import TerminalEditor.Proofs.Program.Loan
import TerminalEditor.Proofs.Program.Sessions
import TerminalEditor.Proofs.Editor.Columns
import TerminalEditor.Proofs.Editor.Keeping
import TerminalEditor.Proofs.Editor.Following
import TerminalEditor.Proofs.Editor.Likeness
