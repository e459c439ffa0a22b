import TerminalEditor.Proofs.Screen.Signals
import TerminalEditor.Proofs.Text.ReadBack
import TerminalEditor.Screen.Display
import TerminalEditor.Screen.Output

/-!
# Commands read back from an output

Every command has control sequences of its own, and each of them ends with its
final character.  So the bytes of an output tell which commands were added, whatever
text stands between them.  They do not tell how text was divided, nor an empty
text, nor the greatest coordinate from the one before it; commands that differ
in nothing else are written alike, and no others are.
-/

namespace TerminalEditor

/-- One call that adds to an output: a command, or all parts of a style. -/
inductive OutputCall
  | draw (command : Command)
  | style (parts : Style)
  deriving DecidableEq, Repr

/-- The commands of one call. -/
def OutputCall.commands : OutputCall → List Command
  | .draw command => [command]
  | .style parts => Command.ofStyle parts

/-- A call whose text holds no escape character. -/
def OutputCall.IsClean (call : OutputCall) : Prop :=
  ∀ command ∈ call.commands, command.IsClean

theorem OutputCall.isClean_commands
    {calls : List OutputCall}
    (clean : ∀ call ∈ calls, call.IsClean) :
    ∀ command ∈ calls.flatMap OutputCall.commands, command.IsClean := by
  intro command member
  rcases List.mem_flatMap.mp member with ⟨call, among, inside⟩
  exact clean call among command inside

/-- The output after some calls. -/
def Output.addAll
    (output : Output)
    (calls : List OutputCall) :
    Output :=
  calls.foldl (fun output call => output.add call.commands) output

/-- What calls add waits behind what was pending. -/
theorem Output.pending_addAll
    (output : Output)
    (calls : List OutputCall) :
    (output.addAll calls).pending =
      output.pending ++
        Command.bytesOf (calls.flatMap OutputCall.commands) := by
  induction calls generalizing output with
  | nil => exact (List.append_nil _).symm
  | cons call later ih =>
    rw [List.flatMap_cons, Command.bytesOf_append, ← List.append_assoc]
    exact ih (output.add call.commands)

namespace Command

/-! ## Commands that are written alike -/

/-- A coordinate as it is written: the greatest like the one before it. -/
def attained (coordinate : UInt16) : UInt16 :=
  if coordinate = 65535 then 65534 else coordinate

/-- A command with its coordinates as they are written. -/
def attaining : Command → Command
  | .moveTo place => .moveTo ⟨attained place.x, attained place.y⟩
  | command => command

/-- A command before others: text is joined with text, and left out if empty. -/
def join : Command → List Command → List Command
  | .text [], later => later
  | .text characters, .text following :: later =>
    .text (characters ++ following) :: later
  | command, later => command :: later

/--
Commands with coordinates as they are written, without empty texts, and with
texts joined that follow each other.
-/
def normal (commands : List Command) : List Command :=
  commands.foldr (fun command later => join command.attaining later) []

/-! ## Reading commands back -/

/-- The command that sets a part of the style by its number. -/
def ofNumber? (number : Nat) : Option Command :=
  match number with
  | 1 => some (.weight .bold)
  | 2 => some (.weight .dim)
  | 4 => some (.underline true)
  | 22 => some (.weight .normal)
  | 24 => some (.underline false)
  | _ =>
    match number / 10 with
    | 3 => (Display.color? (number % 10)).map .foreground
    | 4 => (Display.color? (number % 10)).map .background
    | _ => none

/-- The command that is one control sequence. -/
def ofControl? : Bool → List Nat → Char → Option Command
  | false, [], 'H' => some .home
  | false, [row, column], 'H' =>
    some (.moveTo ⟨UInt16.ofNat (column - 1), UInt16.ofNat (row - 1)⟩)
  | true, [25], 'h' => some (.showCursor true)
  | true, [25], 'l' => some (.showCursor false)
  | false, [number], 'm' => ofNumber? number
  | _, _, _ => none

/-- The commands that some signals carry out, if there are such. -/
def ofSignals? : List Signal → Option (List Command)
  | [] => some []
  | .shown char :: later => (ofSignals? later).map (join (.text [char]))
  | .control false [2] 'J' :: .control false [3] 'J' :: later =>
    (ofSignals? later).map (join .clear)
  | .control isPrivate parameters final :: later =>
    (ofControl? isPrivate parameters final).bind fun command =>
      (ofSignals? later).map (join command)

/-- The commands that some bytes carry out, if there are such. -/
def recover? (bytes : Bytes) : Option (List Command) :=
  ofSignals? (Signal.readAll (Utf8.lossy bytes))

section Joining

theorem encodeAll_join
    (command : Command)
    (later : List Command) :
    encodeAll (join command later) = command.encode ++ encodeAll later := by
  fun_cases join command later with
  | case1 => rfl
  | case2 characters following later nonempty => simp [encode]
  | case3 => rfl

/-- The two greatest coordinates have the same successor. -/
theorem saturatingSucc_attained (coordinate : UInt16) :
    saturatingSucc (attained coordinate) = saturatingSucc coordinate := by
  by_cases greatest : coordinate = 65535
  · rw [greatest]
    rfl
  · rw [attained, if_neg greatest]

theorem encode_attaining (command : Command) :
    command.attaining.encode = command.encode := by
  cases command with
  | moveTo place =>
    simp only [attaining, encode, saturatingSucc_attained]
  | _ => rfl

/-- Commands are written as they are in their normal form. -/
theorem encodeAll_normal (commands : List Command) :
    encodeAll (normal commands) = encodeAll commands := by
  induction commands with
  | nil => rfl
  | cons command later ih =>
    have joined :
        normal (command :: later) =
          join command.attaining (normal later) :=
      rfl
    rw [joined, encodeAll_join, encode_attaining, ih, encodeAll_cons]

/-- Text is joined character by character. -/
theorem join_text_cons
    (char : Char)
    (characters : List Char)
    (later : List Command) :
    join (.text [char]) (join (.text characters) later) =
      join (.text (char :: characters)) later := by
  cases characters with
  | nil => rfl
  | cons first others =>
    match later with
    | [] => rfl
    | .text _ :: _ => rfl
    | .clear :: _ | .home :: _ | .moveTo _ :: _ | .showCursor _ :: _ => rfl
    | .foreground _ :: _ | .background _ :: _ => rfl
    | .weight _ :: _ | .underline _ :: _ => rfl

end Joining

section Recovery

/-- A coordinate is told by its successor, but for the greatest one. -/
theorem ofNat_saturatingSucc (coordinate : UInt16) :
    UInt16.ofNat ((saturatingSucc coordinate).toNat - 1) =
      attained coordinate := by
  have bounded := coordinate.toNat_lt
  rw [saturatingSucc, toNat_saturate]
  by_cases greatest : coordinate = 65535
  · rw [greatest]
    rfl
  · have below : coordinate.toNat ≠ 65535 := by
      intro same
      exact greatest (UInt16.toNat_inj.mp same)
    have number : min (coordinate.toNat + 1) 65535 - 1 = coordinate.toNat := by
      omega
    rw [number, UInt16.ofNat_toNat, attained, if_neg greatest]

/-- The signals of a command are read back as the command. -/
theorem ofSignals?_signals
    (command : Command)
    (later : List Signal) :
    ofSignals? (command.signals ++ later) =
      (ofSignals? later).map (join command.attaining) := by
  cases command with
  | clear => rfl
  | home => rfl
  | moveTo place =>
    rw [signals, List.cons_append, ofSignals?]
    · rw [ofControl?, ofNat_saturatingSucc, ofNat_saturatingSucc]
      rfl
    · intro _ _ _ _ final
      exact absurd final (by decide)
  | showCursor visible => cases visible <;> rfl
  | foreground color => cases color <;> rfl
  | background color => cases color <;> rfl
  | weight level => cases level <;> rfl
  | underline on => cases on <;> rfl
  | text characters =>
    change ofSignals? (characters.map .shown ++ later) =
      (ofSignals? later).map (join (.text characters))
    induction characters with
    | nil => exact Option.map_id'.symm
    | cons char others ih =>
      rw [List.map_cons, List.cons_append, ofSignals?, ih, Option.map_map]
      congr 1
      funext commands
      exact join_text_cons char others commands

/-- Signals of commands are read back as these, in their normal form. -/
theorem ofSignals?_flatMap (commands : List Command) :
    ofSignals? (commands.flatMap signals) = some (normal commands) := by
  induction commands with
  | nil => rfl
  | cons command later ih =>
    rw [List.flatMap_cons, ofSignals?_signals, ih]
    rfl

/-- Commands are read back from their bytes, in their normal form. -/
theorem recover?_bytesOf
    (commands : List Command)
    (clean : ∀ command ∈ commands, command.IsClean) :
    recover? (bytesOf commands) = some (normal commands) := by
  rw [recover?, bytesOf, Utf8.lossy_encode, readAll_encodeAll commands clean,
    ofSignals?_flatMap]

/-- Commands are written alike exactly if they have the same normal form. -/
theorem bytesOf_eq_iff
    {first second : List Command}
    (firstClean : ∀ command ∈ first, command.IsClean)
    (secondClean : ∀ command ∈ second, command.IsClean) :
    bytesOf first = bytesOf second ↔ normal first = normal second := by
  constructor
  · intro same
    have recovered := recover?_bytesOf first firstClean
    rw [same, recover?_bytesOf second secondClean] at recovered
    exact (Option.some.inj recovered).symm
  · intro same
    rw [bytesOf, bytesOf, ← encodeAll_normal first, same,
      encodeAll_normal second]

end Recovery

end Command

/--
The calls that add to an output are read back from the bytes that wait in it, up to
what their normal form leaves out.  Calls add the same bytes to an output exactly
if they have the same normal form.
-/
theorem output_read_back
    (first second : List OutputCall)
    (firstClean : ∀ call ∈ first, call.IsClean)
    (secondClean : ∀ call ∈ second, call.IsClean) :
    Command.recover? (Output.addAll {} first).pending =
        some (Command.normal (first.flatMap OutputCall.commands)) ∧
      ∀ output : Output,
        (output.addAll first).pending = (output.addAll second).pending ↔
          Command.normal (first.flatMap OutputCall.commands) =
            Command.normal (second.flatMap OutputCall.commands) := by
  constructor
  · rw [Output.pending_addAll, List.nil_append]
    exact
      Command.recover?_bytesOf _ (OutputCall.isClean_commands firstClean)
  · intro output
    rw [output.pending_addAll, output.pending_addAll,
      List.append_right_inj]
    exact
      Command.bytesOf_eq_iff (OutputCall.isClean_commands firstClean)
        (OutputCall.isClean_commands secondClean)

/--
Text that looks like the inside of a control sequence, divided and with an empty
part, between a style and the greatest coordinate; and places that differ in which
number is the row.
-/
theorem output_read_back_with_digits :
    let first : List OutputCall :=
      [.style .inverted, .draw (.text ['2', 'J']), .draw (.text []),
        .draw (.text [';', 'é']), .draw (.moveTo ⟨65535, 0⟩)]
    let second : List OutputCall :=
      [.draw (.foreground .black), .draw (.background .white),
        .draw (.weight .normal), .draw (.underline false),
        .draw (.text ['2', 'J', ';', 'é']), .draw (.moveTo ⟨65534, 0⟩)]
    Command.recover? (Output.addAll {} first).pending =
        some
          [.foreground .black, .background .white, .weight .normal,
            .underline false, .text ['2', 'J', ';', 'é'],
            .moveTo ⟨65534, 0⟩] ∧
      (Output.addAll {} first).pending =
        (Output.addAll {} second).pending ∧
      (Output.addAll {} [.draw (.moveTo ⟨1, 2⟩)]).pending ≠
        (Output.addAll {} [.draw (.moveTo ⟨2, 1⟩)]).pending := by
  intro first second
  have firstClean : ∀ call ∈ first, call.IsClean := by
    simp [first, OutputCall.IsClean, OutputCall.commands, Command.ofStyle,
      Command.IsClean]
  have secondClean : ∀ call ∈ second, call.IsClean := by
    simp [second, OutputCall.IsClean, OutputCall.commands, Command.IsClean]
  have moveClean : ∀ place : ScreenVector,
      ∀ call ∈ [OutputCall.draw (.moveTo place)], call.IsClean := by
    simp [OutputCall.IsClean, OutputCall.commands, Command.IsClean]
  rcases output_read_back first second firstClean secondClean with
    ⟨recovered, alike⟩
  rcases output_read_back _ _ (moveClean ⟨1, 2⟩) (moveClean ⟨2, 1⟩) with
    ⟨-, places⟩
  refine ⟨recovered, (alike {}).mpr rfl, ?_⟩
  intro same
  exact absurd ((places {}).mp same) (by decide)

end TerminalEditor
