import TerminalEditor.Buffer.Capacity
import TerminalEditor.Log

/-!
# Options of the command line

The program has three options with a value and two flags.  Reading the command
line gives the values of the options, or stops for a reason that is reported:
a text that was asked for, or a mistake.
-/

namespace TerminalEditor

/-- An option that takes a value. -/
inductive OptionName
  | logFile
  | logLevel
  | capacity
  deriving DecidableEq, Repr

/-- A flag that asks for a text. -/
inductive Flag
  | help
  | version
  deriving DecidableEq, Repr

/-- Everything that can be written after two dashes. -/
inductive Switch
  | option (name : OptionName)
  | flag (flag : Flag)
  deriving DecidableEq, Repr

namespace Switch

/-- All switches in the order in which they are listed. -/
def all : List Switch :=
  [.option .logFile, .option .logLevel, .option .capacity,
    .flag .help, .flag .version]

/-- The word after the two dashes. -/
def word : Switch → String
  | .option .logFile => "log-file"
  | .option .logLevel => "log-level"
  | .option .capacity => "capacity"
  | .flag .help => "help"
  | .flag .version => "version"

/-- The switch with this word. -/
def ofWord? (word : List Char) : Option Switch :=
  all.find? (·.word.toList = word)

/-- A switch as messages show it, with a name for its value. -/
def shown : Switch → String
  | .option .logFile => "--log-file <LOG_FILE>"
  | .option .logLevel => "--log-level <LOG_LEVEL>"
  | .option .capacity => "--capacity <CAPACITY>"
  | .flag .help => "--help"
  | .flag .version => "--version"

end Switch

/-- What the command line asks for. -/
structure Options where
  logFile : Option String := none
  logLevel : Threshold := .upTo .debug
  capacity : Nat := Capacity.standard
  deriving DecidableEq, Repr

/-- Why reading the command line stops without options. -/
inductive CommandLineStop
  /-- A flag asks for a text. -/
  | asked (flag : Flag)
  /-- An argument is none of the switches; `used` are the ones before it. -/
  | unknown (argument : String) (similar : Option Switch) (used : List Switch)
  /-- A flag was given a value. -/
  | unexpectedValue (flag : Flag) (value : String) (used : List Switch)
  /-- An option was given no value. -/
  | missingValue (name : OptionName)
  /-- The value of an option cannot be read. -/
  | invalidValue (name : OptionName) (value reason : String)
  /-- An option was given twice. -/
  | repeated (name : OptionName)
  deriving DecidableEq, Repr

namespace CommandLineStop

/-- The line that shows how the program is used, with some switches. -/
def usage (used : List Switch) : String :=
  if used.isEmpty then
    "Usage: ted [OPTIONS]"
  else
    "Usage: ted " ++ " ".intercalate (used.map Switch.shown)

/-- The text that a flag asks for. -/
def askedText : Flag → String
  | .help =>
    "A small terminal text editor\n\n" ++ usage [] ++ "\n\n" ++
    "Options:\n" ++
    "      --log-file <LOG_FILE>    " ++
    "Where to write the log. Defaults to the user data directory\n" ++
    "      --log-level <LOG_LEVEL>  " ++
    "Least severe log level to record [default: debug]\n" ++
    "      --capacity <CAPACITY>    " ++
    "Initial size of the text buffer, in bytes [default: 10]\n" ++
    "  -h, --help                   Print help\n" ++
    "  -V, --version                Print version\n"
  | .version => "ted_editor 0.1.0\n"

/-- The paragraphs of a report, without the hint at its end. -/
def paragraphs : CommandLineStop → List String
  | .asked flag => [askedText flag]
  | .unknown argument similar used =>
    ["error: unexpected argument '" ++ argument ++ "' found"] ++
      (similar.map fun switch =>
        "  tip: a similar argument exists: '--" ++ switch.word ++
          "'").toList ++
      [usage used]
  | .unexpectedValue flag value used =>
    ["error: unexpected value '" ++ value ++ "' for '" ++
        (Switch.flag flag).shown ++
        "' found; no more were expected",
      usage used]
  | .missingValue name =>
    ["error: a value is required for '" ++ (Switch.option name).shown ++
      "' but none was supplied"]
  | .invalidValue name value reason =>
    ["error: invalid value '" ++ value ++ "' for '" ++
      (Switch.option name).shown ++ "': " ++ reason]
  | .repeated name =>
    ["error: the argument '" ++ (Switch.option name).shown ++
        "' cannot be used multiple times",
      usage []]

/-- The whole text of a report. -/
def message (stop : CommandLineStop) : String :=
  match stop with
  | .asked flag => askedText flag
  | _ =>
    "\n\n".intercalate
      (stop.paragraphs ++
        ["For more information, try '--help'.\n"])

end CommandLineStop

end TerminalEditor
