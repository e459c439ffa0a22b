import TerminalEditor.CommandLine.Options
import TerminalEditor.Files.Tree
import TerminalEditor.Text.Quoted

/-!
# Configurations

A configuration is what the command line asks for with nothing left open.  The
log goes to a file in the user's data directory unless another one is named,
and the directory of that file is made before the program starts.
-/

namespace TerminalEditor

/-- The directories that the environment names for a user. -/
structure Surroundings where
  dataHome : Option String := none
  home : Option String := none
  deriving DecidableEq, Repr

/-- What the program runs with. -/
structure Configuration where
  logFile : String
  logLevel : Threshold
  capacity : Nat
  deriving DecidableEq, Repr

/-- Why there is no configuration. -/
inductive ConfigurationFailure
  | zeroCapacity
  | logDirectory (path : String) (failure : Failure)
  deriving DecidableEq, Repr

namespace ConfigurationFailure

/-- The text that reports a failure. -/
def message : ConfigurationFailure → String
  | .zeroCapacity => "buffer capacity must be at least 1"
  | .logDirectory path _ => "couldn't create log directory " ++ path

/-- The text of what led to a failure. -/
def cause? : ConfigurationFailure → Option String
  | .zeroCapacity => none
  | .logDirectory _ failure => some failure.message

end ConfigurationFailure

namespace Surroundings

/-- The directory for the data of all programs of a user. -/
def dataDirectory? (surroundings : Surroundings) : Option (List Char) :=
  let named :=
    (surroundings.dataHome.map String.toList).filter Path.isAbsolute
  let inHome :=
    ((surroundings.home.map String.toList).filter (! ·.isEmpty)).map
      fun home => Path.join home ".local/share".toList
  named <|> inHome

/-- The log file when none is named. -/
def logFile (surroundings : Surroundings) : String :=
  let name := "ted.log".toList
  match surroundings.dataDirectory? with
  | some directory =>
    String.ofList
      (Path.join (Path.join directory "ted".toList) name)
  | none => String.ofList name

end Surroundings

namespace Configuration

/-- The configuration that some options ask for. -/
def ofOptions
    (surroundings : Surroundings)
    (options : Options) :
    Except ConfigurationFailure Configuration :=
  if options.capacity = 0 then
    .error .zeroCapacity
  else
    .ok
      { logFile := options.logFile.getD surroundings.logFile
        logLevel := options.logLevel
        capacity := options.capacity }

/-- The directory of the log file, if the path names one. -/
def logDirectory? (configuration : Configuration) : Option String :=
  ((Path.parent? configuration.logFile.toList).filter
    (! ·.isEmpty)).map String.ofList

/-- Makes the directory of the log file. -/
def makeLogDirectory
    (configuration : Configuration)
    (files : FileTree) :
    Except ConfigurationFailure FileTree :=
  match configuration.logDirectory? with
  | none => .ok files
  | some path =>
    match files.makeDirectories path.toList with
    | .ok made => .ok made
    | .error failure => .error (.logDirectory path failure)

/-- A configuration with all its parts. -/
def shown (configuration : Configuration) : String :=
  "Config \x7b log_file: " ++
    Text.quotedPath configuration.logFile.toList ++
    ", log_level: " ++ configuration.logLevel.shown ++
    ", capacity: " ++ toString configuration.capacity ++ " \x7d"

end Configuration

end TerminalEditor
