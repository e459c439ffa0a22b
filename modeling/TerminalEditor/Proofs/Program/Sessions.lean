import TerminalEditor.Proofs.Program.Mirror

/-!
# Sessions that the program runs

In whatever pieces bytes arrive, there is a steady run of the program that takes
them: it draws and looks for events until it waits for the next piece or is at its
end.  So all that is known of a loop is known of the program.
-/

namespace TerminalEditor

variable {Termios : Type}

namespace Stage

/-! ## Steady exchanges -/

variable
    {size : ScreenVector}
    {exchange : Exchange Termios}

theorem isSteady_of_quiet
    (stage : Stage Termios)
    (sizeless : exchange.request ≠ .querySize)
    (waitless : exchange.request ≠ .awaitInput)
    (succeeds : exchange.failure? = none) :
    stage.IsSteady size exchange where
  succeeds
  size_eq _ same := absurd (congrArg Exchange.request same) sizeless
  unclosed same := absurd (congrArg Exchange.request same) waitless
  keeps _ _ _ same := absurd (congrArg Exchange.request same) waitless

theorem isSteady_querySize
    (stage : Stage Termios)
    (size : ScreenVector) :
    stage.IsSteady size (.querySize (.ok size)) where
  succeeds := rfl
  size_eq := by
    intro reply same
    cases same
    rfl
  unclosed := nofun
  keeps := nofun

theorem isSteady_bytes
    (stage : Stage Termios)
    (bytes : Bytes) :
    stage.IsSteady size (.awaitInput (.bytes bytes)) where
  succeeds := rfl
  size_eq := nofun
  unclosed := nofun
  keeps := nofun

/-- Whether a run waits for input or is at its end. -/
def IsSettled (stage : Stage Termios) : Prop :=
  (∃ (saved : Termios) (session : Session) (received : Bool),
      stage = .waiting saved session received) ∨
    ∃ ending : Ending, stage.EndsWith ending

/-- A run that waits or is at its end has quit if its outcome is to quit. -/
theorem Tells.endsWith_quit
    {stage : Stage Termios}
    {shown : Bytes}
    {outcome : Checked Outcome}
    {last : Outcome}
    (tells : stage.Tells shown outcome)
    (isSettled : stage.IsSettled)
    (comes : outcome = .ok last)
    (isDone : last.isDone = true) :
    stage.EndsWith .quit := by
  subst comes
  rcases isSettled with ⟨saved, session, received, waiting⟩ | ⟨ending, ends⟩
  · rcases tells.waits saved session received waiting with
      ⟨loop, rfl, going, same, -⟩
    cases same
    cases going.symm.trans isDone
  · cases ending with
    | quit => exact ends
    | failed context failure => exact absurd ends (tells.succeeds _ _)
    | faulted fault => cases tells.faults fault ends

end Stage

namespace Loan

/-! ## Steady runs -/

variable
    [TerminalModes Termios]
    {capacity : Nat}
    {Allocates : Stage Termios → Exchange Termios → Prop}
    {size : ScreenVector}
    {initial saved : Termios}
    {trace : List (Exchange Termios)}
    {loan : Loan Termios}
    {pieces : List Bytes}
    {stage : Stage Termios}
    {session : Session}

theorem isSteady_start
    (capacity : Nat)
    (Allocates : Stage Termios → Exchange Termios → Prop)
    (size : ScreenVector)
    (initial : Termios) :
    IsSteady capacity Allocates size initial []
      { stage := .readingModes, modes := initial } := by
  refine ⟨.none, rfl, ?_⟩
  intro earlier exchange _ isEarlier
  exact absurd (List.prefix_nil.mp isEarlier) (List.concat_ne_nil _ _)

/-- A steady run stays so by an exchange that is steady where it is made. -/
theorem IsSteady.step
    (isSteady : IsSteady capacity Allocates size initial trace loan)
    (exchange : Exchange Termios)
    {resume : exchange.request.Reply → Stage Termios × List Entry}
    (asks : loan.stage.next capacity = .asks exchange.request resume)
    (permitted : exchange.IsPermitted loan.modes)
    (allocated : Allocates loan.stage exchange)
    (once : loan.stage.IsSteady size exchange) :
    IsSteady capacity Allocates size initial (trace ++ [exchange])
      { stage := (resume exchange.reply).1
        modes := exchange.modesAfter loan.modes } := by
  rcases isSteady with ⟨runs, alive, steady⟩
  refine ⟨runs.step exchange alive asks permitted allocated, rfl, ?_⟩
  intro earlier other reached isEarlier ran
  rcases List.prefix_concat_iff.mp isEarlier with whole | before
  · rcases List.append_inj' whole rfl with ⟨rfl, same⟩
    cases same
    rw [ran.unique runs]
    exact once
  · exact steady earlier other reached before ran

/-- A stage that some steady run comes to after these pieces have arrived. -/
def Reaches
    (capacity : Nat)
    (Allocates : Stage Termios → Exchange Termios → Prop)
    (size : ScreenVector)
    (initial : Termios)
    (pieces : List Bytes)
    (stage : Stage Termios) : Prop :=
  ∃ (trace : List (Exchange Termios)) (loan : Loan Termios),
    loan.IsSteady capacity Allocates size initial trace ∧
      trace.flatMap Exchange.pieces = pieces ∧ loan.stage = stage

/-- Some steady run waits or is at its end after these pieces have arrived. -/
def Settles
    (capacity : Nat)
    (Allocates : Stage Termios → Exchange Termios → Prop)
    (size : ScreenVector)
    (initial : Termios)
    (pieces : List Bytes) : Prop :=
  ∃ stage : Stage Termios,
    Reaches capacity Allocates size initial pieces stage ∧ stage.IsSettled

section Reaching

variable
    (allocates : ∀ (stage : Stage Termios) (exchange : Exchange Termios),
      Allocates stage exchange)

include allocates

/-- The editor is made once the screen has taken what clears it. -/
theorem reaches_opened
    (capacity : Nat)
    (size : ScreenVector)
    (initial : Termios) :
    Reaches capacity Allocates size initial []
      (Stage.opened capacity initial).1 := by
  have started :=
    isSteady_start capacity Allocates size initial
      |>.step (.readModes (.ok initial)) rfl rfl (allocates _ _)
        (Stage.isSteady_of_quiet _ nofun nofun rfl)
      |>.step (.setModes (TerminalModes.raw initial) (.ok ())) rfl trivial
        (allocates _ _) (Stage.isSteady_of_quiet _ nofun nofun rfl)
      |>.step (.startInput (.ok ())) rfl trivial (allocates _ _)
        (Stage.isSteady_of_quiet _ nofun nofun rfl)
      |>.step (.write Stage.clearBytes (.takes 8)) rfl trivial
        (allocates _ _) (Stage.isSteady_of_quiet _ nofun nofun rfl)
  exact ⟨_, _, started, rfl, rfl⟩

theorem Reaches.step
    (reaches : Reaches capacity Allocates size initial pieces stage)
    (exchange : Exchange Termios)
    {resume : exchange.request.Reply → Stage Termios × List Entry}
    (asks : stage.next capacity = .asks exchange.request resume)
    (permitted : ∀ modes : Termios, exchange.IsPermitted modes)
    (once : stage.IsSteady size exchange)
    {taken : List Bytes}
    (takes : pieces ++ exchange.pieces = taken) :
    Reaches capacity Allocates size initial taken
      (resume exchange.reply).1 := by
  rcases reaches with ⟨trace, loan, isSteady, arrived, rfl⟩
  refine ⟨_, _, isSteady.step exchange asks (permitted _) (allocates _ _) once,
    ?_, rfl⟩
  rw [List.flatMap_append, List.flatMap_singleton, arrived, takes]

/-- A frame is drawn, and then an event is looked for. -/
theorem Reaches.look
    (reaches :
      Reaches capacity Allocates size initial pieces
        (.sizing saved session)) :
    Reaches capacity Allocates size initial pieces
      (Stage.look saved { session with size }.scrolled false).1 := by
  let drawn := { session with size }.scrolled
  let frame := Command.bytesOf (drawn.editor.frame size)
  rcases Acceptance.exists_whole frame with ⟨answer, accepted, whole⟩
  have drawing :=
    reaches.step allocates (.querySize (.ok size)) rfl (fun _ => trivial)
      (Stage.isSteady_querySize _ size) (List.append_nil pieces)
  have looking :=
    drawing.step allocates (.write frame answer) rfl (fun _ => trivial)
      (Stage.isSteady_of_quiet _ nofun nofun accepted)
      (List.append_nil pieces)
  have written :
      Stage.afterDrawing saved drawn frame (answer.step frame) =
        Stage.look saved drawn false := by
    rw [whole]
    rfl
  rw [← written]
  exact looking

/-- A run that looks for an event waits at last or comes to its end. -/
theorem Reaches.settles {received : Bool}
    (reaches :
      Reaches capacity Allocates size initial pieces
        (Stage.look saved session received).1) :
    Settles capacity Allocates size initial pieces := by
  -- Each event is decoded from bytes that are pending, which become fewer.
  induction length : session.decoder.pending.length
    using Nat.strong_induction_on generalizing session received with
  | _ count ih =>
    subst length
    rcases decoded : session.decoder.next with ⟨event?, rest⟩
    cases event? with
    | none =>
      rw [Stage.look_of_none decoded] at reaches
      exact ⟨_, reaches, Or.inl ⟨saved, session, received, rfl⟩⟩
    | some event =>
      have fewer :=
        Decoder.decode_length_lt (Decoder.next_eq_some_iff.mp decoded)
      rw [Stage.look_of_some decoded, Stage.take] at reaches
      cases answered :
          session.editor.handle event (textRows session.size) with
      | error fault =>
        rw [answered] at reaches
        exact ⟨_, reaches, Or.inr ⟨.faulted fault, _, rfl⟩⟩
      | ok result =>
        rcases result with ⟨flow, editor⟩
        rw [answered] at reaches
        cases flow with
        | quits => exact ⟨_, reaches, Or.inr ⟨.quit, _, rfl⟩⟩
        | goesOn => exact ih _ fewer (reaches.look allocates) rfl

/-- Before anything arrives, a run waits or is at its end. -/
theorem settles_opened
    (capacity : Nat)
    (size : ScreenVector)
    (initial : Termios) :
    Settles capacity Allocates size initial [] := by
  have reaches := reaches_opened allocates capacity size initial
  rw [Stage.opened] at reaches
  cases made : Editor.withCapacity capacity with
  | error fault =>
    rw [made] at reaches
    exact ⟨_, reaches, Or.inr ⟨.faulted fault, _, rfl⟩⟩
  | ok editor =>
    rw [made] at reaches
    exact (reaches.look allocates).settles allocates

/-- A run that waits or is at its end takes the pieces that are still to arrive. -/
theorem Settles.exists_isSteady
    (settles : Settles capacity Allocates size initial pieces)
    (others : List Bytes) :
    ∃ (trace : List (Exchange Termios)) (loan : Loan Termios),
      loan.IsSteady capacity Allocates size initial trace ∧
        trace.flatMap Exchange.pieces <+: pieces ++ others ∧
        loan.HasTaken trace (pieces ++ others).flatten ∧
        loan.stage.IsSettled := by
  induction others generalizing pieces with
  | nil =>
    rcases settles with ⟨_, ⟨trace, loan, isSteady, arrived, rfl⟩, isSettled⟩
    rw [List.append_nil, ← arrived]
    refine ⟨trace, loan, isSteady, List.prefix_refl _, Or.inl ?_, isSettled⟩
    exact Exchange.flatMap_arrived trace
  | cons piece later ih =>
    rcases settles with
      ⟨_, reaches, ⟨saved, session, received, rfl⟩ | ends⟩
    · have arrives :=
        reaches.step allocates (.awaitInput (.bytes piece)) rfl
          (fun _ => trivial) (Stage.isSteady_bytes _ piece) rfl
      rw [List.append_cons]
      exact ih (Reaches.settles allocates arrives)
    · rcases reaches with ⟨trace, loan, isSteady, rfl, rfl⟩
      refine
        ⟨trace, loan, isSteady, List.prefix_append _ _,
          Or.inr ⟨?_, ends⟩, Or.inr ends⟩
      rw [Exchange.flatMap_arrived, List.flatten_append]
      exact List.prefix_append _ _

end Reaching

end Loan

/--
At a fixed size of the screen, a session depends on the bytes that are typed and
not on how they arrive, nor on when events are taken and frames are drawn again.
It comes to what the view of an empty text comes to by the events of all bytes
at once, up to the first one that quits.  It fails exactly if the buffer cannot
be made or cannot grow, and up to a quarter of the largest storage it can grow.
Every steady run of the program that takes the same bytes tells this outcome: where
it waits, where it has quit, and where it has met a fault.  In whatever pieces they
arrive, there is such a run, which waits or is at its end.
-/
theorem outcome_of_arrivals
    (capacity : Nat)
    (size : ScreenVector)
    (uses : List LoopUse) :
    let events := untilQuit (Decoder.drain (Loop.arrived uses)).1
    let run := View.empty.handleAll (textRows size) events
    let fits :=
      (Occupancy.insertAll? ⟨capacity, 0⟩
        (events.map (·.inserted.length))).isSome
    let outcome := do (← Loop.start capacity size).outcomeOf uses
    outcome =
        (if capacity < Capacity.storageLimit ∧ fits then
          .ok (run.2.outcome size run.1 (decide (.quit ∈ events)))
        else
          .error .capacityOverflow) ∧
      ((Loop.arrived uses).length ≤ Capacity.storageLimit / 4 →
        fits) ∧
      ∀ (Termios : Type) [TerminalModes Termios]
          (Allocates : Stage Termios → Exchange Termios → Prop)
          (initial : Termios),
        (∀ (trace : List (Exchange Termios)) (loan : Loan Termios),
          loan.IsSteady capacity Allocates size initial trace →
            loan.HasTaken trace (Loop.arrived uses) →
              loan.stage.Tells (trace.flatMap Exchange.shown) outcome) ∧
        ((∀ (stage : Stage Termios) (exchange : Exchange Termios),
            Allocates stage exchange) →
          ∀ pieces : List Bytes,
            pieces.flatten = Loop.arrived uses →
              ∃ (trace : List (Exchange Termios)) (loan : Loan Termios),
                loan.IsSteady capacity Allocates size initial trace ∧
                  trace.flatMap Exchange.pieces <+: pieces ∧
                  loan.HasTaken trace (Loop.arrived uses) ∧
                  loan.stage.IsSettled) := by
  intro events run fits outcome
  refine ⟨?_, (isSome_insertAll?_untilQuit · capacity), ?_⟩
  · simp only [outcome]
    by_cases small : capacity < Capacity.storageLimit
    · rw [Loop.outcomeOf_start small]
      simp only [small, true_and]
      rfl
    · rw [if_neg fun both => small both.1, Loop.start_of_large small]
      rfl
  · intro Termios _ Allocates initial
    constructor
    · intro trace loan isSteady hasTaken
      exact isSteady.tells hasTaken
    · rintro allocates pieces whole
      rw [← whole]
      exact (Loan.settles_opened allocates capacity size initial).exists_isSteady
        allocates pieces

/-- An arrow that is cut, frames in between and a letter after the end. -/
theorem outcome_of_cut_session :
    let uses : List LoopUse :=
      [.arrive [0x61, 0x0d, 0x1b], .poll, .redraw, .arrive [0x5b],
        .poll, .poll, .redraw, .arrive [0x41, 0x11, 0x62]]
    let pieces : List Bytes :=
      [[0x61], [0x0d, 0x1b, 0x5b], [0x41, 0x11], [0x62]]
    let initial : Modes := {}
    ∃ outcome : Outcome,
      (do (← Loop.start 1 ⟨6, 2⟩).outcomeOf uses) = .ok outcome ∧
        outcome.handled.map (·.event) =
          [.plain (.char 'a'), .plain .enter, .plain .up, .quit] ∧
        outcome.handled.map (·.scroll) = [0, 1, 0, 0] ∧
        outcome.isDone = true ∧
        outcome.text = [97, 10] ∧
        outcome.cursor = 0 ∧
        outcome.frame = View.frame ⟨⟨[97, 10], 0⟩, 0⟩ ⟨6, 2⟩ ∧
        ∃ (trace : List (Exchange Modes)) (loan : Loan Modes),
          loan.IsSteady 1 (fun _ _ => True) ⟨6, 2⟩ initial trace ∧
            trace.flatMap Exchange.pieces <+: pieces ∧
            loan.HasTaken trace pieces.flatten ∧
            loan.stage.EndsWith .quit ∧
            Command.bytesOf outcome.frame ++ Stage.farewellBytes <:+
              trace.flatMap Exchange.shown ++ loan.stage.unsent := by
  intro uses pieces initial
  have drains :
      Decoder.Drains ⟨Loop.arrived uses⟩
        [.plain (.char 'a'), .plain .enter, .plain .up, .quit,
          .plain (.char 'b')]
        {} :=
    .event rfl <| .event rfl <| .event rfl <| .event rfl <|
      .event rfl <| .done rfl
  have events :
      (Decoder.drain (Loop.arrived uses)).1 =
        [.plain (.char 'a'), .plain .enter, .plain .up, .quit,
          .plain (.char 'b')] :=
    congrArg Prod.fst ((Decoder.drains_iff _ _ _).mp drains)
  rcases outcome_of_arrivals 1 ⟨6, 2⟩ uses with ⟨comes, fits, programs⟩
  rcases programs Modes (fun _ _ => True) initial with ⟨tells, runs⟩
  rcases runs (fun _ _ => trivial) pieces rfl with
    ⟨trace, loan, isSteady, cut, hasTaken, isSettled⟩
  have told := tells trace loan isSteady hasTaken
  rw [if_pos ⟨by decide, fits (by decide)⟩, events] at comes
  have hasQuit := told.endsWith_quit isSettled comes rfl
  rcases told.quits hasQuit with ⟨last, same, -, written⟩
  cases comes.symm.trans same
  exact
    ⟨_, comes, rfl, rfl, rfl, rfl, rfl, rfl, trace, loan, isSteady,
      cut, hasTaken, hasQuit, written⟩

end TerminalEditor
