import TerminalEditor.CommandLine.Options
import TerminalEditor.CommandLine.Similarity
import TerminalEditor.Text.Numeral

/-!
# Reading the command line

Arguments are read from the left.  The value of an option stands after an
equals sign or in the next argument.  A value in the next argument is read only
when the next switch that is known comes, or at the end; so an argument that
is no switch is reported before a mistake in the value just before it.
-/

namespace TerminalEditor.CommandLine

/-- What was read so far. -/
structure Progress where
  options : Options := {}
  /-- The options given so far, in order. -/
  used : List OptionName := []
  /-- An option, and its value, that are still to be read. -/
  waiting : Option (OptionName × Option String) := none
  /-- Whether only plain arguments may follow. -/
  onlyPlain : Bool := false
  deriving DecidableEq, Repr

/-- Sets the value of an option, if the text is one of its values. -/
def assign
    (options : Options)
    (name : OptionName)
    (value : String) :
    Except CommandLineStop Options :=
  match name with
  | .logFile =>
    if value.isEmpty then
      .error (.missingValue .logFile)
    else
      .ok { options with logFile := some value }
  | .logLevel =>
    match Threshold.ofName? value with
    | some logLevel => .ok { options with logLevel }
    | none =>
      .error
        (.invalidValue .logLevel value
          ("attempted to convert a string that doesn't match " ++
            "an existing log level"))
  | .capacity =>
    match Numeral.read (Capacity.countLimit - 1) value.toList with
    | .ok capacity => .ok { options with capacity }
    | .error failure =>
      .error (.invalidValue .capacity value failure.message)

/-- Takes an option with its value. -/
def Progress.take
    (progress : Progress)
    (name : OptionName)
    (value : Option String) :
    Except CommandLineStop Progress :=
  match value with
  | none => .error (.missingValue name)
  | some value =>
    if progress.used.contains name then
      .error (.repeated name)
    else do
      let options ← assign progress.options name value
      return { progress with
        options
        used := progress.used ++ [name] }

/-- Takes the option that waits, if there is one. -/
def Progress.settle
    (progress : Progress) :
    Except CommandLineStop Progress :=
  match progress.waiting with
  | none => .ok progress
  | some (name, value) =>
    { progress with waiting := none }.take name value

/--
The switches that a report on an unknown argument lists: the options given
before it, of which the last one may not have been read yet.  An option that
was just repeated is not listed.
-/
def Progress.listed (progress : Progress) : List Switch :=
  let names :=
    match progress.waiting with
    | some (name, some _) =>
      if progress.used.contains name then
        progress.used.filter (· != name)
      else
        progress.used ++ [name]
    | _ => progress.used
  names.map Switch.option

/-- The report on a word after two dashes that is no switch. -/
def unknownWord
    (progress : Progress)
    (word : List Char) :
    CommandLineStop :=
  let similar :=
    (Similarity.best? word (Switch.all.map (·.word.toList))).bind
      Switch.ofWord?
  let listed := progress.listed
  let used :=
    match similar with
    | some switch =>
      if listed.contains switch then listed else listed ++ [switch]
    | none => listed
  .unknown (String.ofList ('-' :: '-' :: word)) similar used

/-- Reads a word after two dashes, with the text after its equals sign. -/
def readWord
    (progress : Progress)
    (word : List Char)
    (attached : Option String) :
    Except CommandLineStop Progress :=
  match Switch.ofWord? word with
  | none => .error (unknownWord progress word)
  | some (.flag flag) =>
    match attached with
    | some value =>
      .error
        (.unexpectedValue flag value
          (progress.used.map Switch.option ++ [.flag flag]))
    | none => do
      let _ ← progress.settle
      .error (.asked flag)
  | some (.option name) => do
    let settled ← progress.settle
    match attached with
    | some value => settled.take name (some value)
    | none => return { settled with waiting := some (name, none) }

/-- Reads the letter after one dash. -/
def readLetter
    (progress : Progress)
    (letter : Char) :
    Except CommandLineStop Progress :=
  let asked (flag : Flag) : Except CommandLineStop Progress := do
    let _ ← progress.settle
    .error (.asked flag)
  if letter = 'h' then
    asked .help
  else if letter = 'V' then
    asked .version
  else
    .error (.unknown (String.ofList ['-', letter]) none [])

/-- Reads an argument that is no switch. -/
def readPlain
    (progress : Progress)
    (argument : String) :
    Except CommandLineStop Progress :=
  match progress.waiting, progress.onlyPlain with
  | some (name, none), false =>
    .ok { progress with waiting := some (name, some argument) }
  | _, _ => .error (.unknown argument none [])

/-- Reads one argument. -/
def readArgument
    (progress : Progress)
    (argument : String) :
    Except CommandLineStop Progress :=
  if progress.onlyPlain then
    readPlain progress argument
  else
    match argument.toList with
    | ['-', '-'] => .ok { progress with onlyPlain := true }
    | '-' :: '-' :: rest =>
      let word := rest.takeWhile (· != '=')
      let attached :=
        match rest.dropWhile (· != '=') with
        | [] => none
        | _ :: value => some (String.ofList value)
      readWord progress word attached
    | '-' :: letter :: _ => readLetter progress letter
    | _ => readPlain progress argument

/-- Reads a whole command line. -/
def parse
    (arguments : List String) :
    Except CommandLineStop Options := do
  let progress ← arguments.foldlM readArgument {}
  return (← progress.settle).options

end TerminalEditor.CommandLine
