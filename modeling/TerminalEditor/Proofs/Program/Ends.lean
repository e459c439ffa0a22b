import TerminalEditor.Program.Guard
import TerminalEditor.Proofs.Editor.Showing
import TerminalEditor.Proofs.Input.Intake
import TerminalEditor.Proofs.Program.Runs

/-!
# How a run ends

A run is brought to its end by the first request that fails, by the end of the
input, by Ctrl-Q, or by a fault when the editor is made or handles an event; and
by nothing else.  From then on it keeps its ending, and every exchange that is not
interrupted brings it closer to it.
-/

namespace TerminalEditor.Stage

variable
    {Termios : Type}
    {stage : Stage Termios}

/-! ## Stages at the end of a run -/

/-- How a run ends that is at its end, and a bound on the exchanges left. -/
def parting? : Stage Termios → Option (Ending × Nat)
  | .closing _ remaining ending => some (ending, remaining.length + 2)
  | .restoring _ ending => some (ending, 1)
  | .finished ending => some (ending, 0)
  | _ => none

/-- How a run is brought to its end by an ending, if it is. -/
def EndsWith
    (stage : Stage Termios)
    (ending : Ending) :
    Prop :=
  ∃ count : Nat, stage.parting? = some (ending, count)

theorem eq_finished {ending : Ending}
    (atEnd : stage.parting? = some (ending, 0)) :
    stage = .finished ending := by
  cases stage with
  | finished =>
    cases atEnd
    rfl
  | _ => cases atEnd

theorem not_endsWith {ending : Ending}
    (begun : stage.parting? = none) :
    ¬ stage.EndsWith ending := by
  rintro ⟨count, ends⟩
  rw [begun] at ends
  cases ends

theorem EndsWith.unique {ending other : Ending}
    (ends : stage.EndsWith ending)
    (others : stage.EndsWith other) :
    ending = other := by
  rcases ends with ⟨count, ends⟩
  rcases others with ⟨_, others⟩
  cases ends.symm.trans others
  rfl

/-- What is reported about a run that is over, if it was broken off. -/
def report? : Stage Termios → Option Notice
  | .finished ending => ending.attempt.notice?
  | _ => none

/-- Only a fault is reported, and only when the run is over. -/
theorem exists_fault_of_report {notice : Notice}
    (reported : stage.report? = some notice) :
    ∃ fault : Fault, stage = .finished (.faulted fault) := by
  cases stage with
  | finished ending =>
    cases ending with
    | faulted fault => exact ⟨fault, rfl⟩
    | _ => cases reported
  | _ => cases reported

/-! ## The last exchanges -/

/-- An offer that is neither refused nor interrupted is taken in part at least. -/
theorem countP_write_le {answer : Acceptance}
    (accepted : answer.refusal? = none)
    (bytes : Bytes) :
    [(Exchange.write bytes answer : Exchange Termios)].countP
        (!·.isInterrupted) ≤
      answer.count := by
  match answer with
  | .takes 0 => cases accepted
  | .takes (count + 1) =>
    exact
      Nat.le_trans List.countP_le_length
        (Nat.succ_le_succ (Nat.zero_le count))
  | .interrupted => exact Nat.le_refl 0
  | .fails _ => cases accepted

/-- An offer that is not interrupted brings the end closer. -/
theorem parting?_afterClosing
    (saved : Termios)
    (ending : Ending)
    (remaining : Bytes)
    (answer : Acceptance) :
    ∃ rest : Nat,
      (afterClosing saved ending (answer.step remaining)).1.parting? =
          some (ending, rest) ∧
        [(Exchange.write remaining answer : Exchange Termios)].countP
            (!·.isInterrupted) + rest ≤
          remaining.length + 2 := by
  have once :
      [(Exchange.write remaining answer : Exchange Termios)].countP
          (!·.isInterrupted) ≤ 1 :=
    List.countP_le_length
  cases refused : answer.refusal? with
  | some failure =>
    rw [Acceptance.step_of_refusal refused]
    exact ⟨1, rfl, by omega⟩
  | none =>
    have taken :
        [(Exchange.write remaining answer : Exchange Termios)].countP
            (!·.isInterrupted) ≤ answer.count :=
      countP_write_le refused remaining
    have dropped :
        (remaining.drop answer.count).length =
          remaining.length - answer.count :=
      List.length_drop
    rw [Acceptance.step_of_none refused]
    cases rest : remaining.drop answer.count with
    | nil => exact ⟨1, rfl, by omega⟩
    | cons byte later =>
      rw [rest, List.length_cons] at dropped
      refine ⟨(byte :: later).length + 2, rfl, ?_⟩
      rw [List.length_cons]
      omega

/-- Every exchange at the end of a run keeps its ending. -/
theorem parting?_step
    [TerminalModes Termios]
    {capacity count : Nat}
    {ending : Ending}
    {exchange : Exchange Termios}
    {resume : exchange.request.Reply → Stage Termios × List Entry}
    (ends : stage.parting? = some (ending, count))
    (asks : stage.next capacity = .asks exchange.request resume) :
    ∃ rest : Nat,
      (resume exchange.reply).1.parting? = some (ending, rest) ∧
        [exchange].countP (!·.isInterrupted) + rest ≤ count := by
  rcases exchange with ⟨request, reply⟩
  cases stage with
  | closing saved remaining =>
    cases ends
    cases asks
    exact parting?_afterClosing saved ending remaining reply
  | restoring saved =>
    cases ends
    cases asks
    exact ⟨0, rfl, List.countP_le_length⟩
  | finished => cases asks
  | _ => cases ends

/-- At its end, a run takes nothing in and keeps its ending. -/
theorem EndsWith.step
    [TerminalModes Termios]
    {capacity : Nat}
    {ending : Ending}
    {exchange : Exchange Termios}
    {resume : exchange.request.Reply → Stage Termios × List Entry}
    (ends : stage.EndsWith ending)
    (asks : stage.next capacity = .asks exchange.request resume) :
    exchange.arrived = [] ∧ (resume exchange.reply).1.EndsWith ending := by
  rcases ends with ⟨count, ends⟩
  rcases parting?_step ends asks with ⟨rest, further, -⟩
  refine ⟨?_, rest, further⟩
  rcases exchange with ⟨request, reply⟩
  cases stage with
  | closing => cases asks; rfl
  | restoring => cases asks; rfl
  | finished => cases asks
  | _ => cases ends

/-! ## What is found -/

/--
The event that is found upon an exchange, and the session in which it is handled:
an event that is decoded already, that arriving bytes make up, or that pending bytes
are given up for.
-/
inductive Finds : Stage Termios → Exchange Termios → Session → Event → Prop
  | drawn {saved : Termios} {session : Session}
    {frame remaining : Bytes} {answer : Acceptance} {event : Event}
    {rest : Decoder}
    (written : answer.step remaining = .goesOn [])
    (decoded : session.decoder.next = (some event, rest)) :
    Finds (.drawing saved session frame remaining)
      (.write remaining answer) { session with decoder := rest } event
  | arrived {saved : Termios} {session : Session} {received : Bool}
    {bytes : Bytes} {event : Event} {rest : Decoder}
    (decoded : (session.decoder.feed bytes).next = (some event, rest)) :
    Finds (.waiting saved session received)
      (.awaitInput (.bytes bytes)) { session with decoder := rest } event
  | givenUp {saved : Termios} {session : Session} {received : Bool}
    {arrival : Arrival} {event : Event} {rest : Decoder}
    (ends :
      session.decoder.meet received arrival =
        .ends (.ok (some event)) rest) :
    Finds (.waiting saved session received) (.awaitInput arrival)
      { session with decoder := rest } event
  | compared {saved : Termios} {session : Session} {event : Event}
    {rest : Decoder}
    (decoded : session.decoder.next = (some event, rest)) :
    Finds (.comparing saved session) (.querySize (.ok session.size))
      { session with decoder := rest } event

theorem look_of_some {saved : Termios} {session : Session}
    {event : Event} {rest : Decoder}
    (decoded : session.decoder.next = (some event, rest))
    (received : Bool) :
    look saved session received =
      take saved { session with decoder := rest } event := by
  rw [look, decoded]

theorem look_of_none {saved : Termios} {session : Session}
    {rest : Decoder}
    (undecoded : session.decoder.next = (none, rest))
    (received : Bool) :
    look saved session received = (.waiting saved session received, []) := by
  rw [look, undecoded]

/-- An event is handled when it is found. -/
theorem Finds.resume_eq
    [TerminalModes Termios]
    {capacity : Nat}
    {exchange : Exchange Termios}
    {session : Session}
    {event : Event}
    {resume : exchange.request.Reply → Stage Termios × List Entry}
    (finds : Finds stage exchange session event)
    (asks : stage.next capacity = .asks exchange.request resume) :
    ∃ saved : Termios,
      resume exchange.reply = take saved session event := by
  cases finds with
  | @drawn saved session frame remaining answer event rest written decoded =>
    cases asks
    refine ⟨saved, ?_⟩
    change afterDrawing saved session frame (answer.step remaining) = _
    rw [written]
    exact look_of_some decoded false
  | @arrived saved session received bytes event rest decoded =>
    cases asks
    exact ⟨saved, look_of_some decoded true⟩
  | @givenUp saved session received arrival event rest ends =>
    cases asks
    refine ⟨saved, ?_⟩
    change afterArrival saved session received arrival = _
    rw [afterArrival, ends]
  | @compared saved session event rest decoded =>
    cases asks
    refine ⟨saved, ?_⟩
    change afterComparing saved session (.ok session.size) = _
    rw [afterComparing, if_pos rfl]
    exact look_of_some decoded false

/-! ## What ends a run -/

/-- What a failure at some stage is reported with. -/
def context : Stage Termios → Option String
  | .readingModes => setup
  | .enteringRaw _ => setup
  | .startingInput _ => setup
  | .clearing _ _ => setup
  | _ => none

/-- What brings a run to its end, and how the run ends then. -/
inductive Stops
    (capacity : Nat) :
    Stage Termios → Exchange Termios → Ending → Prop
  /-- A request fails. -/
  | fails {stage : Stage Termios} {exchange : Exchange Termios}
    {failure : Failure}
    (failed : exchange.failure? = some failure) :
    Stops capacity stage exchange (.failed stage.context failure)
  /-- The input is at its end. -/
  | inputEnds {saved : Termios} {session : Session} {received : Bool}
    {failure : Failure} {rest : Decoder}
    (ends :
      session.decoder.meet received .closed =
        .ends (.error failure) rest) :
    Stops capacity (.waiting saved session received)
      (.awaitInput .closed) (.failed none failure)
  /-- The screen is clear, and no editor of this capacity can be made. -/
  | unmade {saved : Termios} {remaining : Bytes} {answer : Acceptance}
    {fault : Fault}
    (cleared : answer.step remaining = .goesOn [])
    (refused : Editor.withCapacity capacity = .error fault) :
    Stops capacity (.clearing saved remaining) (.write remaining answer)
      (.faulted fault)
  /-- Ctrl-Q is found. -/
  | quits {stage : Stage Termios} {exchange : Exchange Termios}
    {session : Session}
    (finds : Finds stage exchange session .quit) :
    Stops capacity stage exchange .quit
  /-- An event is found that cannot be handled. -/
  | faults {stage : Stage Termios} {exchange : Exchange Termios}
    {session : Session} {event : Event} {fault : Fault}
    (finds : Finds stage exchange session event)
    (refused :
      session.editor.handle event (textRows session.size) =
        .error fault) :
    Stops capacity stage exchange (.faulted fault)

/-- Ctrl-Q ends a run, and so does a fault. -/
theorem endsWith_take_iff
    (saved : Termios)
    (session : Session)
    (event : Event)
    (ending : Ending) :
    (take saved session event).1.EndsWith ending ↔
      event = .quit ∧ ending = .quit ∨
        ∃ fault : Fault,
          session.editor.handle event (textRows session.size) =
              .error fault ∧
            ending = .faulted fault := by
  have quits :
      ∀ (flow : Flow) (editor : Editor),
        session.editor.handle event (textRows session.size) =
            .ok (flow, editor) →
          (flow = .quits ↔ event = .quit) := by
    intro flow editor handled
    rw [Editor.flow_of_handle handled, ← decide_eq_true_iff (p := event = _),
      ← event.flow_beq_quits, beq_iff_eq]
  rw [take]
  cases handled :
      session.editor.handle event (textRows session.size) with
  | error fault =>
    have noQuit : event ≠ .quit := by
      rintro rfl
      cases handled
    constructor
    · rintro ⟨count, ends⟩
      cases ends
      exact Or.inr ⟨fault, rfl, rfl⟩
    · rintro (⟨isQuit, -⟩ | ⟨_, same, rfl⟩)
      · exact absurd isQuit noQuit
      · cases same
        exact ⟨_, rfl⟩
  | ok answer =>
    rcases answer with ⟨flow, editor⟩
    rw [← quits flow editor handled]
    cases flow with
    | quits =>
      constructor
      · rintro ⟨count, ends⟩
        cases ends
        exact Or.inl ⟨rfl, rfl⟩
      · rintro (⟨-, rfl⟩ | ⟨_, same, -⟩)
        · exact ⟨_, rfl⟩
        · cases same
    | goesOn =>
      constructor
      · rintro ⟨count, ends⟩
        cases ends
      · rintro (⟨same, -⟩ | ⟨_, same, -⟩)
        · cases same
        · cases same

section Causes

variable
    {capacity : Nat}
    {exchange : Exchange Termios}
    {session : Session}
    {ending : Ending}

/-- A run that an event ends is ended by Ctrl-Q or by a fault. -/
theorem Finds.stops {saved : Termios} {event : Event}
    (finds : Finds stage exchange session event)
    (ends : (take saved session event).1.EndsWith ending) :
    Stops capacity stage exchange ending := by
  rcases (endsWith_take_iff saved session event ending).mp ends with
    ⟨rfl, rfl⟩ | ⟨fault, refused, rfl⟩
  · exact .quits finds
  · exact .faults finds refused

theorem stops_of_look {saved : Termios} {received : Bool}
    (finds : ∀ (event : Event) (rest : Decoder),
      session.decoder.next = (some event, rest) →
        Finds stage exchange { session with decoder := rest } event)
    (ends : (look saved session received).1.EndsWith ending) :
    Stops capacity stage exchange ending := by
  rcases decoded : session.decoder.next with ⟨event?, rest⟩
  cases event? with
  | some event =>
    rw [look_of_some decoded] at ends
    exact (finds event rest decoded).stops ends
  | none =>
    rw [look_of_none decoded] at ends
    exact absurd ends (not_endsWith rfl)

/-- A wait that does not fail ends a run by an event, or the input ends. -/
theorem stops_of_afterArrival {saved : Termios} {received : Bool}
    {arrival : Arrival}
    (succeeds : arrival.failure? = none)
    (ends : (afterArrival saved session received arrival).1.EndsWith ending) :
    Stops capacity (.waiting saved session received)
      (.awaitInput arrival) ending := by
  rw [afterArrival] at ends
  cases met : session.decoder.meet received arrival with
  | goesOn decoder receivedNow =>
    rw [met] at ends
    rcases Decoder.bytes_of_goesOn met with ⟨bytes, rfl, rfl, -⟩
    refine stops_of_look ?_ ends
    intro event rest decoded
    exact .arrived decoded
  | ends result rest =>
    rw [met] at ends
    match result with
    | .ok (some event) => exact (Finds.givenUp met).stops ends
    | .ok none =>
      exact absurd ends (not_endsWith rfl)
    | .error failure =>
      rcases ends with ⟨count, ends⟩
      cases ends
      cases arrival with
      | bytes bytes => cases met
      | failed other => cases succeeds
      | timedOut =>
        rw [Decoder.meet] at met
        split at met <;> cases met
      | closed => exact .inputEnds met

variable [TerminalModes Termios]

/-- An exchange that fails ends a run, which tells of the failure. -/
theorem endsWith_of_failure
    {resume : exchange.request.Reply → Stage Termios × List Entry}
    {failure : Failure}
    (begun : stage.parting? = none)
    (asks : stage.next capacity = .asks exchange.request resume)
    (fails : exchange.failure? = some failure) :
    (resume exchange.reply).1.EndsWith (.failed stage.context failure) := by
  rcases exchange with ⟨request, reply⟩
  cases stage with
  | readingModes =>
    cases asks
    cases Exchange.eq_error fails
    exact ⟨_, rfl⟩
  | enteringRaw saved =>
    cases asks
    cases Exchange.eq_error fails
    exact ⟨_, rfl⟩
  | startingInput saved =>
    cases asks
    cases Exchange.eq_error fails
    exact ⟨_, rfl⟩
  | clearing saved remaining =>
    cases asks
    change (afterClearing capacity saved
      (Acceptance.step reply remaining)).1.EndsWith _
    rw [Acceptance.step_of_refusal fails]
    exact ⟨_, rfl⟩
  | sizing saved session =>
    cases asks
    cases Exchange.eq_error fails
    exact ⟨_, rfl⟩
  | drawing saved session frame remaining =>
    cases asks
    change (afterDrawing saved session frame
      (Acceptance.step reply remaining)).1.EndsWith _
    rw [Acceptance.step_of_refusal fails]
    exact ⟨_, rfl⟩
  | waiting saved session received =>
    cases asks
    cases Arrival.eq_failed fails
    exact ⟨_, rfl⟩
  | comparing saved session =>
    cases asks
    cases Exchange.eq_error fails
    exact ⟨_, rfl⟩
  | closing => cases begun
  | restoring => cases begun
  | finished => cases begun

/-- An exchange that does not fail ends a run only by what is found then. -/
theorem stops_of_success
    {resume : exchange.request.Reply → Stage Termios × List Entry}
    (begun : stage.parting? = none)
    (asks : stage.next capacity = .asks exchange.request resume)
    (succeeds : exchange.failure? = none)
    (ends : (resume exchange.reply).1.EndsWith ending) :
    Stops capacity stage exchange ending := by
  rcases exchange with ⟨request, reply⟩
  cases stage with
  | readingModes =>
    cases asks
    rcases Exchange.exists_ok succeeds with ⟨modes, rfl⟩
    exact absurd ends (not_endsWith rfl)
  | enteringRaw saved =>
    cases asks
    rcases Exchange.exists_ok succeeds with ⟨_, rfl⟩
    exact absurd ends (not_endsWith rfl)
  | startingInput saved =>
    cases asks
    rcases Exchange.exists_ok succeeds with ⟨_, rfl⟩
    exact absurd ends (not_endsWith rfl)
  | clearing saved remaining =>
    cases asks
    change (afterClearing capacity saved
      (Acceptance.step reply remaining)).1.EndsWith _ at ends
    cases offered : Acceptance.step reply remaining with
    | stops failure =>
      rw [Acceptance.step_of_none succeeds] at offered
      cases offered
    | goesOn rest =>
      rw [offered] at ends
      cases rest with
      | cons byte later =>
        exact absurd ends (not_endsWith rfl)
      | nil =>
        rw [afterClearing, opened] at ends
        cases made : Editor.withCapacity capacity with
        | ok editor =>
          rw [made] at ends
          exact absurd ends (not_endsWith rfl)
        | error fault =>
          rw [made] at ends
          rcases ends with ⟨count, ends⟩
          cases ends
          exact .unmade offered made
  | sizing saved session =>
    cases asks
    rcases Exchange.exists_ok succeeds with ⟨size, rfl⟩
    exact absurd ends (not_endsWith rfl)
  | drawing saved session frame remaining =>
    cases asks
    change (afterDrawing saved session frame
      (Acceptance.step reply remaining)).1.EndsWith _ at ends
    cases offered : Acceptance.step reply remaining with
    | stops failure =>
      rw [Acceptance.step_of_none succeeds] at offered
      cases offered
    | goesOn rest =>
      rw [offered] at ends
      cases rest with
      | cons byte later =>
        exact absurd ends (not_endsWith rfl)
      | nil =>
        exact
          stops_of_look (fun event rest decoded => .drawn offered decoded)
            ends
  | waiting saved session received =>
    cases asks
    exact stops_of_afterArrival succeeds ends
  | comparing saved session =>
    cases asks
    rcases Exchange.exists_ok succeeds with ⟨size, rfl⟩
    change (afterComparing saved session (.ok size)).1.EndsWith _ at ends
    rw [afterComparing] at ends
    split at ends
    · next same =>
      subst same
      exact stops_of_look (fun event rest decoded => .compared decoded) ends
    · exact absurd ends (not_endsWith rfl)
  | closing => cases begun
  | restoring => cases begun
  | finished => cases begun

/-- A run is brought to its end by what is listed, and by nothing else. -/
theorem endsWith_iff
    {resume : exchange.request.Reply → Stage Termios × List Entry}
    (begun : stage.parting? = none)
    (asks : stage.next capacity = .asks exchange.request resume) :
    (resume exchange.reply).1.EndsWith ending ↔
      Stops capacity stage exchange ending := by
  constructor
  · intro ends
    cases failed : exchange.failure? with
    | none => exact stops_of_success begun asks failed ends
    | some failure =>
      cases ends.unique (endsWith_of_failure begun asks failed)
      exact .fails failed
  · intro stops
    cases stops with
    | fails failed => exact endsWith_of_failure begun asks failed
    | @inputEnds saved session received failure rest ends =>
      cases asks
      change (afterArrival saved session received .closed).1.EndsWith _
      rw [afterArrival, ends]
      exact ⟨_, rfl⟩
    | @unmade saved remaining answer fault cleared refused =>
      cases asks
      change (afterClearing capacity saved
        (answer.step remaining)).1.EndsWith _
      rw [cleared, afterClearing, opened, refused]
      exact ⟨_, rfl⟩
    | @quits _ _ session finds =>
      rcases finds.resume_eq asks with ⟨saved, taken⟩
      rw [taken]
      exact
        (endsWith_take_iff saved session .quit _).mpr
          (Or.inl ⟨rfl, rfl⟩)
    | @faults _ _ session event fault finds refused =>
      rcases finds.resume_eq asks with ⟨saved, taken⟩
      rw [taken]
      exact
        (endsWith_take_iff saved session event _).mpr
          (Or.inr ⟨fault, refused, rfl⟩)

end Causes

/-- A stage that asks for nothing is the last one. -/
theorem next_cases
    [TerminalModes Termios]
    (stage : Stage Termios)
    (capacity : Nat) :
    (∃ ending : Ending, stage = .finished ending) ∨
      ∃ (request : Request Termios)
        (resume : request.Reply → Stage Termios × List Entry),
        stage.next capacity = .asks request resume := by
  cases stage with
  | finished ending => exact Or.inl ⟨ending, rfl⟩
  | _ => exact Or.inr ⟨_, _, rfl⟩

end TerminalEditor.Stage
