/-!
# Log entries

An entry has a level, the part of the program it comes from, and a message.
The log keeps the entries whose level is at most as verbose as its threshold.
-/

namespace TerminalEditor

/-- How urgent a log entry is, the most urgent first. -/
inductive Level
  | error
  | warn
  | info
  | debug
  | trace
  deriving DecidableEq, Repr

namespace Level

/-- The place of a level among all levels, counted from the most urgent. -/
def rank : Level → Nat
  | .error => 1
  | .warn => 2
  | .info => 3
  | .debug => 4
  | .trace => 5

/-- The name of a level in capitals. -/
def name : Level → String
  | .error => "ERROR"
  | .warn => "WARN"
  | .info => "INFO"
  | .debug => "DEBUG"
  | .trace => "TRACE"

end Level

/-- The least urgent level that a log keeps. -/
inductive Threshold
  | off
  | upTo (level : Level)
  deriving DecidableEq, Repr

namespace Threshold

/-- All thresholds, the least verbose first. -/
def all : List Threshold :=
  [.off, .upTo .error, .upTo .warn, .upTo .info, .upTo .debug,
    .upTo .trace]

/-- The name of a threshold in capitals. -/
def name : Threshold → String
  | .off => "OFF"
  | .upTo level => level.name

/-- The name of a threshold as the log shows it. -/
def shown : Threshold → String
  | .off => "Off"
  | .upTo .error => "Error"
  | .upTo .warn => "Warn"
  | .upTo .info => "Info"
  | .upTo .debug => "Debug"
  | .upTo .trace => "Trace"

/-- The threshold with this name, in any mixture of cases. -/
def ofName? (name : String) : Option Threshold :=
  all.find? fun threshold =>
    threshold.name.toList = name.toList.map Char.toUpper

/-- Whether entries of a level are kept. -/
def admits : Threshold → Level → Bool
  | .off, _ => false
  | .upTo greatest, level => level.rank ≤ greatest.rank

end Threshold

/-- One line of the log. -/
structure Entry where
  level : Level
  source : String
  message : String
  deriving DecidableEq, Repr

namespace Entry

/-- An entry as it is written after the time. -/
def line (entry : Entry) : String :=
  entry.level.name ++ " " ++ entry.source ++ "] " ++ entry.message

/-- The lines of the entries that a log keeps. -/
def keptLines
    (threshold : Threshold)
    (entries : List Entry) :
    List String :=
  (entries.filter (threshold.admits ·.level)).map line

end Entry

end TerminalEditor
