import TerminalEditor.Proofs.Editor.Arrival
import TerminalEditor.Proofs.Program.Ends

/-!
# Runs that mirror a loop

While the size of the screen stays the same, nothing fails and no pending bytes are
given up, the stages of a run go through what a loop goes through: each exchange is
some uses of the loop.  So a run tells what the bytes lead to that have arrived,
down to what it has written to the screen.
-/

namespace TerminalEditor

variable {Termios : Type}

/-- A loop that goes on, and whose last frame shows its editor. -/
structure Loop.IsDrawn
    (loop : Loop)
    (size : ScreenVector) : Prop where
  going : loop.session.isDone = false
  size_eq : loop.session.size = size
  frame_eq : loop.frame = loop.session.editor.frame size

theorem Loop.IsDrawn.with_decoder
    {loop : Loop}
    {size : ScreenVector}
    (isDrawn : loop.IsDrawn size)
    (decoder : Decoder) :
    ({ loop with session := { loop.session with decoder } } :
      Loop).IsDrawn size :=
  ⟨isDrawn.going, isDrawn.size_eq, isDrawn.frame_eq⟩

namespace Stage

/--
An exchange at some stage that does not fail, where the screen has this size, the
input is not at its end, and no pending bytes are given up.
-/
structure IsSteady
    (size : ScreenVector)
    (stage : Stage Termios)
    (exchange : Exchange Termios) : Prop where
  succeeds : exchange.failure? = none
  size_eq : ∀ reply : Except Failure ScreenVector,
    exchange = .querySize reply → reply = .ok size
  unclosed : exchange ≠ .awaitInput .closed
  keeps : ∀ (saved : Termios) (session : Session),
    stage = .waiting saved session false →
      exchange = .awaitInput .timedOut → session.decoder.pending = []

/-- The bytes that a stage has left to write. -/
def unsent : Stage Termios → Bytes
  | .clearing _ remaining => remaining
  | .drawing _ _ _ remaining => remaining
  | .closing _ remaining _ => remaining
  | _ => []

/-- Whether the editor is still to be made at a stage. -/
def isOpening : Stage Termios → Bool
  | .readingModes => true
  | .enteringRaw _ => true
  | .startingInput _ => true
  | .clearing _ _ => true
  | _ => false

variable
    {capacity : Nat}
    {size : ScreenVector}
    {stage : Stage Termios}
    {exchange : Exchange Termios}

theorem not_endsWith_of_opening
    (isOpening : stage.isOpening = true)
    (ending : Ending) :
    ¬ stage.EndsWith ending := by
  cases stage with
  | readingModes => exact not_endsWith rfl
  | enteringRaw => exact not_endsWith rfl
  | startingInput => exact not_endsWith rfl
  | clearing => exact not_endsWith rfl
  | _ => cases isOpening

/-- At its end, a run goes on to write what it has left to write. -/
theorem shown_append_unsent
    [TerminalModes Termios]
    {ending : Ending}
    {resume : exchange.request.Reply → Stage Termios × List Entry}
    (ends : stage.EndsWith ending)
    (asks : stage.next capacity = .asks exchange.request resume)
    (succeeds : exchange.failure? = none) :
    exchange.shown ++ (resume exchange.reply).1.unsent = stage.unsent := by
  rcases exchange with ⟨request, reply⟩
  rcases ends with ⟨count, ends⟩
  cases stage with
  | closing saved remaining =>
    cases asks
    change
      remaining.take (Acceptance.count reply) ++
          (afterClosing saved _ (Acceptance.step reply remaining)).1.unsent =
        remaining
    rw [Acceptance.step_of_none succeeds]
    have whole := List.take_append_drop (Acceptance.count reply) remaining
    cases rest : remaining.drop (Acceptance.count reply) with
    | nil => rwa [rest] at whole
    | cons => rwa [rest] at whole
  | restoring saved =>
    cases asks
    rfl
  | finished => cases asks
  | _ => cases ends

/-! ## What a stage has in common with a loop -/

/--
A stage that has come as far as a loop: the editor is to be made, or the session is
that of the loop and its last frame was written so far, or the loop has quit or has
met a fault, and the run is at its end.
-/
inductive Mirrors
    (capacity : Nat)
    (size : ScreenVector)
    (shown : Bytes) :
    Checked Loop → Stage Termios → Prop
  | opening {stage : Stage Termios}
    (isOpening : stage.isOpening = true) :
    Mirrors capacity size shown (Loop.start capacity size) stage
  | sizing {saved : Termios} {loop : Loop} {session : Session}
    (isDrawn : loop.IsDrawn size)
    (scrolled : { session with size }.scrolled = loop.session) :
    Mirrors capacity size shown (.ok loop) (.sizing saved session)
  | drawing {saved : Termios} {loop : Loop} {remaining : Bytes}
    (isDrawn : loop.IsDrawn size)
    (written : Command.bytesOf loop.frame <:+ shown ++ remaining) :
    Mirrors capacity size shown (.ok loop)
      (.drawing saved loop.session (Command.bytesOf loop.frame) remaining)
  | waiting {saved : Termios} {loop : Loop} {received : Bool}
    (isDrawn : loop.IsDrawn size)
    (settled : loop.session.decoder.next = (none, loop.session.decoder))
    (written : Command.bytesOf loop.frame <:+ shown) :
    Mirrors capacity size shown (.ok loop)
      (.waiting saved loop.session received)
  | comparing {saved : Termios} {loop : Loop}
    (isDrawn : loop.IsDrawn size)
    (settled : loop.session.decoder.next = (none, loop.session.decoder))
    (written : Command.bytesOf loop.frame <:+ shown) :
    Mirrors capacity size shown (.ok loop) (.comparing saved loop.session)
  | quit {loop : Loop} {stage : Stage Termios}
    (isDone : loop.session.isDone = true)
    (ends : stage.EndsWith .quit)
    (written :
      Command.bytesOf loop.frame ++ farewellBytes <:+
        shown ++ stage.unsent) :
    Mirrors capacity size shown (.ok loop) stage
  | faulted {fault : Fault} {stage : Stage Termios}
    (ends : stage.EndsWith (.faulted fault)) :
    Mirrors capacity size shown (.error fault) stage

variable
    {saved : Termios}
    {shown : Bytes}
    {loop : Loop}

/-- A new editor is that of a new loop. -/
theorem mirrors_opened
    (capacity : Nat)
    (size : ScreenVector)
    (saved : Termios)
    (shown : Bytes) :
    Mirrors capacity size shown (Loop.start capacity size)
      (opened capacity saved).1 := by
  rw [opened, Loop.start, Session.start]
  cases Editor.withCapacity capacity with
  | error fault => exact .faulted ⟨_, rfl⟩
  | ok editor =>
    refine .sizing ⟨rfl, rfl, rfl⟩ ?_
    exact (Session.scrolled_scrolled { editor, size }).symm

/-- An event is handled as the loop handles it. -/
theorem mirrors_take
    (isDrawn : loop.IsDrawn size)
    (written : Command.bytesOf loop.frame <:+ shown)
    (saved : Termios)
    (event : Event) :
    Mirrors capacity size shown (loop.handle event)
      (take saved loop.session event).1 := by
  rcases loop with ⟨⟨editor, screen, decoder, isDone⟩, handled, frame⟩
  rcases isDrawn with ⟨rfl, rfl, -⟩
  cases answered : editor.handle event (textRows screen) with
  | error fault =>
    rw [take, answered, Loop.handle, Session.handleAll,
      if_neg Bool.false_ne_true, answered]
    exact .faulted ⟨_, rfl⟩
  | ok result =>
    rcases result with ⟨flow, next⟩
    rw [take, answered, Loop.handle, Session.handleAll_of_handle rfl answered]
    cases flow with
    | quits =>
      rcases written with ⟨before, rfl⟩
      exact .quit rfl ⟨_, rfl⟩ ⟨before, (List.append_assoc before _ _).symm⟩
    | goesOn =>
      refine .sizing ⟨rfl, rfl, rfl⟩ ?_
      exact (Session.scrolled_scrolled _).symm

/-- Looking for an event is a poll. -/
theorem mirrors_look
    (isDrawn : loop.IsDrawn size)
    (written : Command.bytesOf loop.frame <:+ shown)
    (saved : Termios)
    (received : Bool) :
    Mirrors capacity size shown loop.poll
      (look saved loop.session received).1 := by
  rcases decoded : loop.session.decoder.next with ⟨event?, rest⟩
  rw [Loop.poll, decoded]
  cases event? with
  | some event =>
    rw [look_of_some decoded]
    exact mirrors_take (isDrawn.with_decoder rest) written saved event
  | none =>
    rw [look_of_none decoded]
    rcases Decoder.next_eq_none_iff.mp decoded with ⟨-, rfl⟩
    exact .waiting isDrawn decoded written

/-- A frame is written as far as the screen takes it. -/
theorem mirrors_afterDrawing
    {remaining : Bytes}
    {answer : Acceptance}
    (isDrawn : loop.IsDrawn size)
    (written : Command.bytesOf loop.frame <:+ shown ++ remaining)
    (accepted : answer.refusal? = none)
    (saved : Termios) :
    ∃ uses : List LoopUse,
      Loop.arrived uses = [] ∧
        Mirrors capacity size (shown ++ remaining.take answer.count)
          (loop.useAll uses)
          (afterDrawing saved loop.session (Command.bytesOf loop.frame)
            (answer.step remaining)).1 := by
  rw [Acceptance.step_of_none accepted]
  rw [← List.take_append_drop answer.count remaining, ← List.append_assoc]
    at written
  cases rest : remaining.drop answer.count with
  | nil =>
    rw [rest, List.append_nil] at written
    refine ⟨[.poll], rfl, ?_⟩
    rw [Loop.useAll_singleton]
    exact mirrors_look isDrawn written saved false
  | cons byte later =>
    rw [rest] at written
    exact ⟨[], rfl, .drawing isDrawn written⟩

/-- What arrives is fed to the decoder. -/
theorem mirrors_afterArrival
    {received : Bool}
    {arrival : Arrival}
    (isDrawn : loop.IsDrawn size)
    (settled : loop.session.decoder.next = (none, loop.session.decoder))
    (written : Command.bytesOf loop.frame <:+ shown)
    (steady :
      (waiting saved loop.session received).IsSteady size
        (.awaitInput arrival)) :
    ∃ uses : List LoopUse,
      Loop.arrived uses = (Exchange.awaitInput arrival : Exchange Termios).arrived ∧
        Mirrors capacity size shown (loop.useAll uses)
          (afterArrival saved loop.session received arrival).1 := by
  cases arrival with
  | bytes bytes =>
    refine ⟨[.arrive bytes, .poll], rfl, ?_⟩
    have fed :
        loop.useAll [.arrive bytes, .poll] = (loop.arrive bytes).poll :=
      Loop.useAll_singleton (loop.arrive bytes) .poll
    rw [fed]
    exact
      mirrors_look
        (isDrawn.with_decoder (loop.session.decoder.feed bytes)) written
        saved true
  | failed failure => cases steady.succeeds
  | closed => exact absurd rfl steady.unclosed
  | timedOut =>
    refine ⟨[], rfl, ?_⟩
    cases received with
    | true => exact .comparing isDrawn settled written
    | false =>
      have nothing := Decoder.flush_of_empty (steady.keeps saved _ rfl rfl)
      rw [afterArrival, Decoder.meet, if_neg Bool.false_ne_true, nothing]
      exact .comparing isDrawn settled written

/-- Until the editor is made, nothing arrives. -/
theorem mirrors_of_opening
    [TerminalModes Termios]
    {resume : exchange.request.Reply → Stage Termios × List Entry}
    (isOpening : stage.isOpening = true)
    (asks : stage.next capacity = .asks exchange.request resume)
    (succeeds : exchange.failure? = none)
    (size : ScreenVector)
    (shown : Bytes) :
    exchange.arrived = [] ∧
      Mirrors capacity size shown (Loop.start capacity size)
        (resume exchange.reply).1 := by
  rcases exchange with ⟨request, reply⟩
  cases stage with
  | readingModes =>
    cases asks
    rcases Exchange.exists_ok succeeds with ⟨modes, rfl⟩
    exact ⟨rfl, .opening rfl⟩
  | enteringRaw saved =>
    cases asks
    rcases Exchange.exists_ok succeeds with ⟨_, rfl⟩
    exact ⟨rfl, .opening rfl⟩
  | startingInput saved =>
    cases asks
    rcases Exchange.exists_ok succeeds with ⟨_, rfl⟩
    exact ⟨rfl, .opening rfl⟩
  | clearing saved remaining =>
    cases asks
    refine ⟨rfl, ?_⟩
    change Mirrors capacity size shown (Loop.start capacity size)
      (afterClearing capacity saved (Acceptance.step reply remaining)).1
    rw [Acceptance.step_of_none succeeds]
    cases remaining.drop (Acceptance.count reply) with
    | nil => exact mirrors_opened capacity size saved shown
    | cons => exact .opening rfl
  | _ => cases isOpening

/-- One exchange is some uses of the loop. -/
theorem Mirrors.step
    [TerminalModes Termios]
    {after : Checked Loop}
    {resume : exchange.request.Reply → Stage Termios × List Entry}
    (mirrors : Mirrors capacity size shown after stage)
    (asks : stage.next capacity = .asks exchange.request resume)
    (steady : stage.IsSteady size exchange) :
    ∃ uses : List LoopUse,
      Loop.arrived uses = exchange.arrived ∧
        Mirrors capacity size (shown ++ exchange.shown)
          (after >>= (·.useAll uses)) (resume exchange.reply).1 := by
  cases mirrors with
  | opening isOpening =>
    rcases mirrors_of_opening isOpening asks steady.succeeds size
        (shown ++ exchange.shown)
      with ⟨silent, opened⟩
    exact ⟨[], silent.symm, by rw [Loop.bind_useAll_nil]; exact opened⟩
  | @sizing saved loop session isDrawn scrolled =>
    rcases exchange with ⟨request, reply⟩
    cases asks
    cases steady.size_eq reply rfl
    refine ⟨[], rfl, ?_⟩
    change Mirrors capacity size (shown ++ []) (.ok loop)
      (draw saved session size).1
    rw [draw, scrolled, ← isDrawn.frame_eq]
    exact .drawing isDrawn (List.suffix_append _ _)
  | @drawing saved loop remaining isDrawn written =>
    rcases exchange with ⟨request, reply⟩
    cases asks
    exact mirrors_afterDrawing isDrawn written steady.succeeds saved
  | @waiting saved loop received isDrawn settled written =>
    rcases exchange with ⟨request, reply⟩
    cases asks
    have still : Command.bytesOf loop.frame <:+ shown ++ [] := by
      rwa [List.append_nil]
    exact mirrors_afterArrival isDrawn settled still steady
  | @comparing saved loop isDrawn settled written =>
    rcases exchange with ⟨request, reply⟩
    cases asks
    cases steady.size_eq reply rfl
    refine ⟨[.poll], rfl, ?_⟩
    change Mirrors capacity size (shown ++ []) (loop.useAll [.poll])
      (afterComparing saved loop.session (.ok size)).1
    rw [List.append_nil, Loop.useAll_singleton, afterComparing,
      if_pos isDrawn.size_eq.symm]
    exact mirrors_look isDrawn written saved false
  | @quit loop _ isDone ends written =>
    rcases ends.step asks with ⟨silent, further⟩
    refine ⟨[], silent.symm, .quit isDone further ?_⟩
    rwa [List.append_assoc, shown_append_unsent ends asks steady.succeeds]
  | @faulted fault _ ends =>
    rcases ends.step asks with ⟨silent, further⟩
    exact ⟨[], silent.symm, .faulted further⟩

/-- What a stage tells of the outcome of a session whose bytes were all taken. -/
structure Tells
    (stage : Stage Termios)
    (shown : Bytes)
    (outcome : Checked Outcome) : Prop where
  /-- A run that waits has the session of the loop, and its last frame was written. -/
  waits : ∀ (saved : Termios) (session : Session) (received : Bool),
    stage = .waiting saved session received →
      ∃ loop : Loop,
        loop.session = session ∧ session.isDone = false ∧
          outcome = .ok loop.outcome ∧
          Command.bytesOf loop.frame <:+ shown
  /-- A run that has quit has written the last frame, and the farewell behind it. -/
  quits : stage.EndsWith .quit →
    ∃ last : Outcome,
      outcome = .ok last ∧ last.isDone = true ∧
        Command.bytesOf last.frame ++ farewellBytes <:+
          shown ++ stage.unsent
  faults : ∀ fault : Fault,
    stage.EndsWith (.faulted fault) → outcome = .error fault
  succeeds : ∀ (context : Option String) (failure : Failure),
    ¬ stage.EndsWith (.failed context failure)

/-- A stage at the end of a run is where the loop has quit or has met a fault. -/
theorem Mirrors.of_endsWith
    {after : Checked Loop}
    {ending : Ending}
    (mirrors : Mirrors capacity size shown after stage)
    (ends : stage.EndsWith ending) :
    (∃ loop : Loop,
        after = .ok loop ∧ ending = .quit ∧ loop.session.isDone = true ∧
          Command.bytesOf loop.frame ++ farewellBytes <:+
            shown ++ stage.unsent) ∨
      ∃ fault : Fault, after = .error fault ∧ ending = .faulted fault := by
  cases mirrors with
  | opening isOpening =>
    exact absurd ends (not_endsWith_of_opening isOpening ending)
  | sizing => exact absurd ends (not_endsWith rfl)
  | drawing => exact absurd ends (not_endsWith rfl)
  | waiting => exact absurd ends (not_endsWith rfl)
  | comparing => exact absurd ends (not_endsWith rfl)
  | quit isDone quits written =>
    exact Or.inl ⟨_, rfl, ends.unique quits, isDone, written⟩
  | faulted faults => exact Or.inr ⟨_, rfl, ends.unique faults⟩

/-- What arrives at the end of a run makes no difference. -/
theorem Mirrors.arrive
    {after : Checked Loop}
    {ending : Ending}
    (mirrors : Mirrors capacity size shown after stage)
    (ends : stage.EndsWith ending)
    (bytes : Bytes) :
    Mirrors capacity size shown (after >>= (·.useAll [.arrive bytes]))
      stage := by
  rcases mirrors.of_endsWith ends with
    ⟨loop, rfl, rfl, isDone, written⟩ | ⟨fault, rfl, rfl⟩
  · exact .quit isDone ends written
  · exact .faulted ends

/-- A stage tells what the loop comes to. -/
theorem Mirrors.tells
    {after : Checked Loop}
    (mirrors : Mirrors capacity size shown after stage) :
    stage.Tells shown (do return (← (← after).settle).outcome) := by
  constructor
  · rintro saved session received rfl
    cases mirrors with
    | opening isOpening => cases isOpening
    | quit _ ends => exact absurd ends (not_endsWith rfl)
    | faulted ends => exact absurd ends (not_endsWith rfl)
    | @waiting _ loop _ isDrawn settled written =>
      refine ⟨loop, rfl, isDrawn.going, ?_, written⟩
      rw [Checked.ok_bind, Loop.settle_of_none settled]
      rfl
  · intro ends
    rcases mirrors.of_endsWith ends with
      ⟨loop, rfl, -, isDone, written⟩ | ⟨_, -, other⟩
    · rw [Checked.ok_bind, Loop.settle_of_done isDone]
      exact ⟨_, rfl, isDone, written⟩
    · cases other
  · intro fault ends
    rcases mirrors.of_endsWith ends with ⟨_, -, other, -⟩ | ⟨_, rfl, same⟩
    · cases other
    · cases same
      rfl
  · intro context failure ends
    rcases mirrors.of_endsWith ends with ⟨_, -, other, -⟩ | ⟨_, -, other⟩
    · cases other
    · cases other

end Stage

namespace Loan

variable
    [TerminalModes Termios]
    {capacity : Nat}
    {Allocates : Stage Termios → Exchange Termios → Prop}
    {size : ScreenVector}
    {initial : Termios}
    {trace : List (Exchange Termios)}
    {loan : Loan Termios}

/-- A run that was not aborted and every exchange of which was steady. -/
structure IsSteady
    (capacity : Nat)
    (Allocates : Stage Termios → Exchange Termios → Prop)
    (size : ScreenVector)
    (initial : Termios)
    (trace : List (Exchange Termios))
    (loan : Loan Termios) : Prop where
  runs :
    Runs capacity Allocates { stage := .readingModes, modes := initial }
      trace loan
  alive : loan.isAborted = false
  steady :
    ∀ (earlier : List (Exchange Termios)) (exchange : Exchange Termios)
        (reached : Loan Termios),
      earlier ++ [exchange] <+: trace →
        Runs capacity Allocates { stage := .readingModes, modes := initial }
            earlier reached →
          reached.stage.IsSteady size exchange

/-- A steady run goes through what a loop goes through. -/
theorem IsSteady.mirrors
    (isSteady : IsSteady capacity Allocates size initial trace loan) :
    ∃ uses : List LoopUse,
      Loop.arrived uses = trace.flatMap Exchange.arrived ∧
        loan.stage.Mirrors capacity size (trace.flatMap Exchange.shown)
          (Loop.start capacity size >>= (·.useAll uses)) := by
  rcases isSteady with ⟨runs, alive, steady⟩
  induction runs with
  | none =>
    refine ⟨[], rfl, ?_⟩
    rw [Loop.bind_useAll_nil]
    exact .opening rfl
  | abort => cases alive
  | @step trace loan earlier exchange resume going asks _ _ ih =>
    rcases ih going fun before other reached isEarlier =>
        steady before other reached
          (isEarlier.trans (List.prefix_append trace [exchange]))
      with ⟨uses, arrived, mirrors⟩
    have once := steady trace exchange loan (List.prefix_refl _) earlier
    rcases mirrors.step asks once with ⟨later, further, next⟩
    refine ⟨uses ++ later, ?_, ?_⟩
    · rw [Loop.arrived_append, arrived, further, List.flatMap_append,
        List.flatMap_singleton]
    · rw [List.flatMap_append, List.flatMap_singleton]
      simp only [Loop.useAll_append, ← bind_assoc]
      exact next

/--
All of some bytes have arrived in a run, or those that did before it came to its
end.
-/
def HasTaken
    (loan : Loan Termios)
    (trace : List (Exchange Termios))
    (bytes : Bytes) : Prop :=
  trace.flatMap Exchange.arrived = bytes ∨
    trace.flatMap Exchange.arrived <+: bytes ∧
      ∃ ending : Ending, loan.stage.EndsWith ending

/-- A steady run tells what the bytes that it has taken lead to. -/
theorem IsSteady.tells {uses : List LoopUse}
    (isSteady : IsSteady capacity Allocates size initial trace loan)
    (hasTaken : loan.HasTaken trace (Loop.arrived uses)) :
    loan.stage.Tells (trace.flatMap Exchange.shown)
      (do (← Loop.start capacity size).outcomeOf uses) := by
  rcases isSteady.mirrors with ⟨others, same, mirrors⟩
  rcases hasTaken with all | ⟨⟨rest, all⟩, ending, ends⟩
  · rw [Loop.outcomeOf_start_congr (all.symm.trans same.symm)]
    have told := mirrors.tells
    rwa [bind_assoc] at told
  · have arrived :
        Loop.arrived uses = Loop.arrived (others ++ [.arrive rest]) := by
      rw [Loop.arrived_append, same, ← all, Loop.arrived, Loop.arrived,
        List.append_nil]
    rw [Loop.outcomeOf_start_congr arrived]
    have told := (mirrors.arrive ends rest).tells
    simp only [bind_assoc, ← Loop.useAll_append] at told
    exact told

end Loan

end TerminalEditor
