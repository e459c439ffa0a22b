import TerminalEditor.CommandLine.Parse
import TerminalEditor.Program.Configuration
import TerminalEditor.Program.Guard
import TerminalEditor.Program.Request

/-!
# From the command line to the exit

A launch reads the command line, settles the configuration, makes the log's
directory and opens the log.  It either ends at once with a report, or gives
the configuration that the program runs with.  The ending of the run is then
reported in the same form: a message, and what led to it.
-/

namespace TerminalEditor

/-- The exit code of a program with what it has printed. -/
structure Exit where
  code : Nat
  output : String := ""
  errors : String := ""
  deriving DecidableEq, Repr

namespace Exit

/-- The exit with a message and, if there is one, what led to it. -/
def failure
    (message : String)
    (cause : Option String) :
    Exit :=
  let because :=
    cause.elim "" fun text => "\n\nCaused by:\n    " ++ text
  { code := 1
    errors := "Error: " ++ message ++ because ++ "\n" }

/-- The exit when the command line gives no options. -/
def ofStop (stop : CommandLineStop) : Exit :=
  match stop with
  | .asked _ => { code := 0, output := stop.message }
  | _ => { code := 2, errors := stop.message }

/-- The exit when there is no configuration. -/
def ofConfigurationFailure (reason : ConfigurationFailure) : Exit :=
  failure reason.message reason.cause?

/-- The exit when the log cannot be opened. -/
def ofLogFailure (reason : Failure) : Exit :=
  failure "couldn't set up logging"
    (some ("IO Error initializing logger: " ++ reason.message))

/-- The exit with the value of a guarded run, or with none. -/
def ofValue? : Option (Except RunFailure Unit) → Exit
  | some (.ok ()) => { code := 0 }
  | some (.error ⟨some context, reason⟩) =>
    failure context (some reason.message)
  | some (.error ⟨none, reason⟩) => failure reason.message none
  | none => failure "panicked" none

/-- The exit after a run: the notice on it, if there is one, comes first. -/
def ofEnding (ending : Ending) : Exit :=
  let exit := ofValue? ending.attempt.value?
  let notice := ending.attempt.notice?.elim "" Notice.text
  { exit with errors := notice ++ exit.errors }

end Exit

/-- An ending as one line, with the context before the reason. -/
def Ending.line? : Ending → Option String
  | .quit => none
  | .failed (some context) reason => some (context ++ ": " ++ reason.message)
  | .failed none reason => some reason.message
  | .faulted _ => none

/-- What a launch comes to. -/
inductive Launch
  | exits (exit : Exit)
  | starts (configuration : Configuration) (files : FileTree)

namespace Launch

/-- The entry that starts a log. -/
def startEntry (configuration : Configuration) : Entry :=
  ⟨.info, "ted", "starting with " ++ configuration.shown⟩

/-- The entries that end a log. -/
def endEntries : Ending → List Entry
  | .quit => [⟨.info, "ted", "exited cleanly"⟩]
  | _ => []

/-- The configuration that a command line leads to, or the exit. -/
def configure
    (arguments : List String)
    (surroundings : Surroundings) :
    Except Exit Configuration :=
  match CommandLine.parse arguments with
  | .error stop => .error (.ofStop stop)
  | .ok options =>
    match Configuration.ofOptions surroundings options with
    | .error reason => .error (.ofConfigurationFailure reason)
    | .ok configuration => .ok configuration

/-- Launches the program with these arguments on a file tree. -/
def launch
    (arguments : List String)
    (surroundings : Surroundings)
    (files : FileTree) :
    Launch :=
  match configure arguments surroundings with
  | .error exit => .exits exit
  | .ok configuration =>
    match configuration.makeLogDirectory files with
    | .error reason => .exits (.ofConfigurationFailure reason)
    | .ok files =>
      match files.openFile configuration.logFile.toList with
      | .error reason => .exits (.ofLogFailure reason)
      | .ok files => .starts configuration files

end Launch

end TerminalEditor
