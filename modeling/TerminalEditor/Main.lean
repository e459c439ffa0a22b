import Std.Time.Zoned
import TerminalEditor.Program.Launch
import TerminalEditor.Program.Stage

/-!
# The program

The program reads its command line, makes its log, and then carries out the
requests of a run on its standard streams until the run ends.  The modes of
the terminal are left to the shell that starts the program; they count as set.
-/

namespace TerminalEditor.Main

/-- The streams and the log of a running program. -/
structure Host where
  configuration : Configuration
  log : IO.FS.Handle
  input : IO.FS.Stream
  output : IO.FS.Stream
  /-- What was read and not taken yet. -/
  queue : IO.Ref InputQueue
  /-- The read that is going on, if there is one. -/
  reader : IO.Ref (Option (Task (Except IO.Error ReadResult)))

/-- The failure that stands for an error of the system. -/
def failureOf : IO.Error → Failure
  | .noFileOrDirectory .. => .notFound
  | .alreadyExists .. => .alreadyExists
  | .inappropriateType _ 21 _ => .isADirectory
  | .inappropriateType .. => .notADirectory
  | .permissionDenied _ code _ =>
    ⟨.permissionDenied,
      "Permission denied (os error " ++ toString code ++ ")"⟩
  | error => ⟨.other, toString error⟩

/-- The local time in the form of the log. -/
def timeStamp : IO String := do
  let now ← Std.Time.PlainDateTime.now
  let padded (width : Nat) (number : Int) : String :=
    let digits := toString number
    "".pushn '0' (width - digits.length) ++ digits
  let date :=
    padded 4 now.year ++ "/" ++ padded 2 now.month.val ++ "/" ++
      padded 2 now.day.val
  let time :=
    padded 2 now.hour.val ++ ":" ++ padded 2 now.minute.val ++ ":" ++
      padded 2 now.second.val
  return date ++ " " ++ time

/-- Adds entries to the log. -/
def Host.record
    (host : Host)
    (entries : List Entry) :
    IO Unit := do
  for line in Entry.keptLines host.configuration.logLevel entries do
    host.log.putStrLn ("[" ++ (← timeStamp) ++ " " ++ line)
  host.log.flush

/-- Reads one byte of input. -/
def readOnce (input : IO.FS.Stream) : IO ReadResult := do
  try
    let bytes ← input.read 1
    return .received bytes.data.toList
  catch error =>
    match error with
    | .interrupted .. => return .interrupted
    | _ => return .failed (failureOf error)

/-- Starts a read, or takes the result of the one that is going on. -/
def Host.advanceReader (host : Host) : IO Unit := do
  match ← host.reader.get with
  | none =>
    let task ← IO.asTask (readOnce host.input) Task.Priority.dedicated
    host.reader.set (some task)
  | some task =>
    if ← IO.hasFinished task then
      host.reader.set none
      match task.get with
      | .ok result => host.queue.modify (·.afterRead result)
      | .error error =>
        host.queue.modify (·.afterRead (.failed (failureOf error)))
    else
      IO.sleep 1

/--
Waits for input for about so many milliseconds.  A read is started only when
input is awaited, so that none is left over when the program quits.
-/
def Host.await
    (host : Host) :
    Nat → IO Arrival
  | 0 => return .timedOut
  | patience + 1 => do
    match (← host.queue.get).poll with
    | some (arrival, rest) =>
      host.queue.set rest
      return arrival
    | none =>
      host.advanceReader
      host.await patience

/-- The size that the environment tells. -/
def environmentSize : IO ScreenVector := do
  let number (name : String) (standard : Nat) : IO UInt16 := do
    let value := (← IO.getEnv name).bind (·.toNat?)
    return saturate (value.getD standard)
  return ⟨← number "COLUMNS" 80, ← number "LINES" 24⟩

/-- Carries out one request. -/
def Host.perform
    (host : Host) :
    (request : Request Modes) → IO request.Reply
  | .readModes => do
    let reply : Except Failure Modes :=
      if ← host.input.isTty then .ok {} else .error .notATerminal
    return reply
  | .setModes _ => do
    let reply : Except Failure Unit :=
      if ← host.input.isTty then .ok () else .error .notATerminal
    return reply
  | .startInput => return (.ok () : Except Failure Unit)
  | .querySize => do
    let size ← environmentSize
    let reply : Except Failure ScreenVector :=
      if ← host.output.isTty then .ok size else .error .notATerminal
    return reply
  | .write bytes => do
    let reply : Acceptance ←
      try
        host.output.write ⟨bytes.toArray⟩
        host.output.flush
        pure (.takes bytes.length)
      catch error =>
        pure (.fails (failureOf error))
    return reply
  | .awaitInput => do
    let arrival : Arrival ← host.await 17
    return arrival

/-- Carries out the requests of a run until it ends. -/
partial def Host.follow
    (host : Host)
    (stage : Stage Modes) :
    IO Ending := do
  match stage.next host.configuration.capacity with
  | .ends ending => return ending
  | .asks request resume =>
    let (next, entries) := resume (← host.perform request)
    host.record entries
    host.follow next

/-- Whether a path leads to a directory. -/
def isDirectory (name : String) : IO Bool := do
  try
    (← IO.FS.realPath name).isDir
  catch _ =>
    return false

/-- Makes a directory, unless the path leads to one. -/
def ensureDirectory (name : String) : IO Unit := do
  try
    IO.FS.createDir name
  catch error =>
    unless ← isDirectory name do
      throw error

/-- Makes a directory and at most `depth` ones above it that are missing. -/
def makeDirectories
    (path : List Char) :
    Nat → IO Unit
  | 0 => ensureDirectory (String.ofList path)
  | depth + 1 => do
    let name := String.ofList path
    try
      ensureDirectory name
    catch error =>
      match error, Path.parent? path with
      | .noFileOrDirectory .., some parent =>
        makeDirectories parent depth
        ensureDirectory name
      | _, _ => throw error

/-- Makes the directory of the log file. -/
def makeLogDirectory
    (configuration : Configuration) :
    IO (Option ConfigurationFailure) := do
  match configuration.logDirectory? with
  | none => return none
  | some path =>
    try
      makeDirectories path.toList path.length
      return none
    catch error =>
      return some (.logDirectory path (failureOf error))

/-- Runs the program with a configuration. -/
def run (configuration : Configuration) : IO Exit := do
  if let some reason ← makeLogDirectory configuration then
    return .ofConfigurationFailure reason
  let opened : Except Failure IO.FS.Handle ←
    try
      .ok <$> IO.FS.Handle.mk configuration.logFile .append
    catch error =>
      pure (.error (failureOf error))
  match opened with
  | .error reason => return .ofLogFailure reason
  | .ok log =>
    let host : Host :=
      { configuration
        log
        input := ← IO.getStdin
        output := ← IO.getStdout
        queue := ← IO.mkRef {}
        reader := ← IO.mkRef none }
    host.record [Launch.startEntry configuration]
    let ending ← host.follow .readingModes
    host.record (Launch.endEntries ending)
    return .ofEnding ending

/-- The directories that the environment names. -/
def surroundings : IO Surroundings := do
  return {
    dataHome := ← IO.getEnv "XDG_DATA_HOME"
    home := ← IO.getEnv "HOME" }

end TerminalEditor.Main

/-- Starts the program and exits as its run was reported. -/
def main (arguments : List String) : IO UInt32 := do
  let surroundings ← TerminalEditor.Main.surroundings
  let exit ←
    match TerminalEditor.Launch.configure arguments surroundings with
    | .error exit => pure exit
    | .ok configuration => TerminalEditor.Main.run configuration
  (← IO.getStdout).putStr exit.output
  (← IO.getStderr).putStr exit.errors
  return exit.code.toUInt32
