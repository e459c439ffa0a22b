import TerminalEditor.Proofs.Program.Ends
import TerminalEditor.Proofs.Screen.Drawing

/-!
# A terminal on loan

A run changes the modes of the terminal only by entering raw mode.  From then on it
holds the terminal until it sets the saved modes, which is the last thing that it
does, however it ends.  If the input was started, a run offers the farewell to the
screen before that, and writes nothing behind it.  A fault is reported only after
all this.
-/

namespace TerminalEditor

variable {Termios : Type}

namespace Stage

/-! ## Stages of an open terminal -/

/-- Whether a stage lies between the start of the input and the farewell. -/
inductive IsOpen (saved : Termios) : Stage Termios → Prop
  | clearing (remaining : Bytes) : IsOpen saved (.clearing saved remaining)
  | sizing (session : Session) : IsOpen saved (.sizing saved session)
  | drawing (session : Session) (frame remaining : Bytes) :
    IsOpen saved (.drawing saved session frame remaining)
  | waiting (session : Session) (received : Bool) :
    IsOpen saved (.waiting saved session received)
  | comparing (session : Session) : IsOpen saved (.comparing saved session)

/-- Whether a stage is open still or begins with the farewell. -/
def StaysOrCloses
    (saved : Termios)
    (stage : Stage Termios) :
    Prop :=
  stage.IsOpen saved ∨
    ∃ (unsent : Bytes) (ending : Ending), stage = close saved unsent ending

theorem staysOrCloses_close
    (saved : Termios)
    (unsent : Bytes)
    (ending : Ending) :
    StaysOrCloses saved (close saved unsent ending) :=
  Or.inr ⟨unsent, ending, rfl⟩

theorem staysOrCloses_opened
    (capacity : Nat)
    (saved : Termios) :
    StaysOrCloses saved (opened capacity saved).1 := by
  rw [opened]
  split
  · exact Or.inl (.sizing _)
  · exact staysOrCloses_close saved _ _

theorem staysOrCloses_take
    (saved : Termios)
    (session : Session)
    (event : Event) :
    StaysOrCloses saved (take saved session event).1 := by
  rw [take]
  split
  · exact staysOrCloses_close saved _ _
  · split
    · exact staysOrCloses_close saved _ _
    · exact Or.inl (.sizing _)

theorem staysOrCloses_look
    (saved : Termios)
    (session : Session)
    (received : Bool) :
    StaysOrCloses saved (look saved session received).1 := by
  rw [look]
  split
  · exact staysOrCloses_take saved _ _
  · exact Or.inl (.waiting _ _)

theorem staysOrCloses_afterClearing
    (capacity : Nat)
    (saved : Termios)
    (offered : OfferStep) :
    StaysOrCloses saved (afterClearing capacity saved offered).1 := by
  fun_cases afterClearing capacity saved offered with
  | case1 => exact staysOrCloses_opened capacity saved
  | case2 => exact Or.inl (.clearing _)
  | case3 => exact staysOrCloses_close saved _ _

theorem staysOrCloses_afterDrawing
    (saved : Termios)
    (session : Session)
    (frame : Bytes)
    (offered : OfferStep) :
    StaysOrCloses saved (afterDrawing saved session frame offered).1 := by
  fun_cases afterDrawing saved session frame offered with
  | case1 => exact staysOrCloses_look saved session false
  | case2 => exact Or.inl (.drawing _ _ _)
  | case3 => exact staysOrCloses_close saved _ _

theorem staysOrCloses_afterComparing
    (saved : Termios)
    (session : Session)
    (reply : Except Failure ScreenVector) :
    StaysOrCloses saved (afterComparing saved session reply).1 := by
  fun_cases afterComparing saved session reply with
  | case1 => exact staysOrCloses_look saved session false
  | case2 => exact Or.inl (.sizing _)
  | case3 => exact staysOrCloses_close saved _ _

theorem staysOrCloses_afterArrival
    (saved : Termios)
    (session : Session)
    (received : Bool)
    (arrival : Arrival) :
    StaysOrCloses saved (afterArrival saved session received arrival).1 := by
  rw [afterArrival]
  split
  · exact staysOrCloses_look saved _ _
  · exact staysOrCloses_take saved _ _
  · exact Or.inl (.comparing _)
  · exact staysOrCloses_close saved _ _

/-- An open stage leaves the modes alone, and whatever the reply is, stays or closes. -/
theorem IsOpen.next
    [TerminalModes Termios]
    {saved : Termios}
    {stage : Stage Termios}
    (isOpen : stage.IsOpen saved)
    (capacity : Nat) :
    ∃ (request : Request Termios)
      (resume : request.Reply → Stage Termios × List Entry),
      stage.next capacity = .asks request resume ∧
        request.concernsModes = false ∧
        ∀ reply : request.Reply, StaysOrCloses saved (resume reply).1 := by
  cases isOpen with
  | clearing remaining =>
    refine ⟨_, _, rfl, rfl, ?_⟩
    intro (reply : Acceptance)
    exact staysOrCloses_afterClearing capacity saved _
  | sizing session =>
    refine ⟨_, _, rfl, rfl, ?_⟩
    intro (reply : Except Failure ScreenVector)
    cases reply with
    | ok size => exact Or.inl (.drawing _ _ _)
    | error failure => exact staysOrCloses_close saved _ _
  | drawing session frame remaining =>
    refine ⟨_, _, rfl, rfl, ?_⟩
    intro (reply : Acceptance)
    exact staysOrCloses_afterDrawing saved session frame _
  | waiting session received =>
    exact
      ⟨_, _, rfl, rfl, staysOrCloses_afterArrival saved session received⟩
  | comparing session =>
    exact ⟨_, _, rfl, rfl, staysOrCloses_afterComparing saved session⟩

/-! ## What was exchanged in raw mode -/

/-- The farewell was offered to the screen as the end of some bytes. -/
def IsOffered (exchanges : List (Exchange Termios)) : Prop :=
  ∃ (unsent : Bytes) (answer : Acceptance),
    Exchange.write (unsent ++ farewellBytes) answer ∈ exchanges

/--
The farewell was offered and ends what is on the screen, or the last exchange
offered the rest of it and was refused.
-/
def IsParted (exchanges : List (Exchange Termios)) : Prop :=
  IsOffered exchanges ∧
    ∃ rest : Bytes,
      farewellBytes <:+ exchanges.flatMap Exchange.shown ++ rest ∧
        (rest = [] ∨
          ∃ (earlier : List (Exchange Termios)) (answer : Acceptance)
            (failure : Failure),
            exchanges = earlier ++ [Exchange.write rest answer] ∧
              answer.refusal? = some failure)

/-- What was exchanged in raw mode before a stage. -/
inductive Follows
    (saved : Termios) :
    List (Exchange Termios) → Stage Termios → Prop
  | starting : Follows saved [] (.startingInput saved)
  | unstarted (failure : Failure) :
    Follows saved [Exchange.startInput (.error failure)]
      (.restoring saved (.failed setup failure))
  | isOpen {exchanges : List (Exchange Termios)} {stage : Stage Termios}
    (started : Exchange.startInput (.ok ()) ∈ exchanges)
    (isOpen : stage.IsOpen saved) :
    Follows saved exchanges stage
  | closing {exchanges : List (Exchange Termios)} {remaining : Bytes}
    (ending : Ending)
    (started : Exchange.startInput (.ok ()) ∈ exchanges)
    (offers : farewellBytes <:+ remaining ∨ IsOffered exchanges)
    (ends :
      farewellBytes <:+ exchanges.flatMap Exchange.shown ++ remaining) :
    Follows saved exchanges (.closing saved remaining ending)
  | restoring {exchanges : List (Exchange Termios)}
    (ending : Ending)
    (started : Exchange.startInput (.ok ()) ∈ exchanges)
    (parted : IsParted exchanges) :
    Follows saved exchanges (.restoring saved ending)

variable
    {saved : Termios}
    {exchanges : List (Exchange Termios)}
    {stage : Stage Termios}

theorem IsOffered.append
    (isOffered : IsOffered exchanges)
    (later : List (Exchange Termios)) :
    IsOffered (exchanges ++ later) := by
  rcases isOffered with ⟨unsent, answer, member⟩
  exact ⟨unsent, answer, List.mem_append_left later member⟩

theorem isOffered_write {remaining : Bytes}
    (offers : farewellBytes <:+ remaining ∨ IsOffered exchanges)
    (answer : Acceptance) :
    IsOffered (exchanges ++ [Exchange.write remaining answer]) := by
  rcases offers with ⟨unsent, rfl⟩ | isOffered
  · exact
      ⟨unsent, answer, List.mem_append_right _ (List.mem_singleton_self _)⟩
  · exact isOffered.append _

/-- What begins with the farewell has it left to write. -/
theorem StaysOrCloses.follows
    (stays : StaysOrCloses saved stage)
    (started : Exchange.startInput (.ok ()) ∈ exchanges) :
    stage.Follows saved exchanges := by
  rcases stays with isOpen | ⟨unsent, ending, rfl⟩
  · exact .isOpen started isOpen
  · refine .closing ending started (Or.inl ⟨unsent, rfl⟩) ?_
    exact ⟨_, List.append_assoc _ unsent farewellBytes⟩

/-- One exchange of the farewell. -/
theorem follows_afterClosing {remaining : Bytes}
    (ending : Ending)
    (started : Exchange.startInput (.ok ()) ∈ exchanges)
    (offers : farewellBytes <:+ remaining ∨ IsOffered exchanges)
    (ends : farewellBytes <:+ exchanges.flatMap Exchange.shown ++ remaining)
    (answer : Acceptance) :
    Follows saved (exchanges ++ [Exchange.write remaining answer])
      (afterClosing saved ending (answer.step remaining)).1 := by
  have begun :
      Exchange.startInput (.ok ()) ∈
        exchanges ++ [Exchange.write remaining answer] :=
    List.mem_append_left _ started
  have offered := isOffered_write offers answer
  -- What was shown and what remains make up the same bytes after any answer.
  rw [← Exchange.shown_append_drop exchanges remaining answer] at ends
  cases refused : answer.refusal? with
  | some failure =>
    rw [Acceptance.step_of_refusal refused]
    refine .restoring ending begun ⟨offered, remaining, ?_, Or.inr ?_⟩
    · rwa [Acceptance.count_of_refusal refused, List.drop_zero] at ends
    · exact ⟨exchanges, answer, failure, rfl, refused⟩
  | none =>
    rw [Acceptance.step_of_none refused]
    cases rest : remaining.drop answer.count with
    | nil =>
      rw [rest] at ends
      exact .restoring ending begun ⟨offered, [], ends, Or.inl rfl⟩
    | cons byte later =>
      rw [rest] at ends
      exact .closing ending begun (Or.inr offered) ends

/-- One exchange in raw mode, as long as the saved modes are not set. -/
theorem Follows.step
    [TerminalModes Termios]
    {capacity : Nat}
    {exchange : Exchange Termios}
    {resume : exchange.request.Reply → Stage Termios × List Entry}
    (follows : stage.Follows saved exchanges)
    (held : ∀ ending : Ending, stage ≠ .restoring saved ending)
    (asks : stage.next capacity = .asks exchange.request resume) :
    exchange.request.concernsModes = false ∧
      (resume exchange.reply).1.Follows saved
        (exchanges ++ [exchange]) := by
  rcases exchange with ⟨request, reply⟩
  cases follows with
  | starting =>
    cases asks
    refine ⟨rfl, ?_⟩
    match (reply : Except Failure Unit) with
    | .ok () =>
      exact .isOpen (List.mem_singleton_self _) (.clearing _)
    | .error failure => exact .unstarted failure
  | unstarted failure => exact absurd rfl (held _)
  | isOpen started isOpen =>
    rcases isOpen.next capacity with ⟨_, _, asked, quiet, stays⟩
    cases asks.symm.trans asked
    exact
      ⟨quiet, (stays reply).follows (List.mem_append_left _ started)⟩
  | closing ending started offers ends =>
    cases asks
    exact ⟨rfl, follows_afterClosing ending started offers ends reply⟩
  | restoring ending => exact absurd rfl (held ending)

theorem Follows.ne_finished
    (follows : stage.Follows saved exchanges)
    (ending : Ending) :
    stage ≠ .finished ending := by
  rintro rfl
  cases follows with
  | isOpen started isOpen => cases isOpen

/-- What was exchanged before the saved modes are set. -/
theorem Follows.of_restoring {ending : Ending}
    (follows : (Stage.restoring saved ending).Follows saved exchanges) :
    (∃ failure : Failure,
        exchanges = [Exchange.startInput (.error failure)] ∧
          ending = .failed setup failure) ∨
      Exchange.startInput (.ok ()) ∈ exchanges ∧ IsParted exchanges := by
  cases follows with
  | unstarted failure => exact Or.inl ⟨failure, rfl, rfl⟩
  | isOpen started isOpen => cases isOpen
  | restoring ending started parted => exact Or.inr ⟨started, parted⟩

end Stage

namespace Loan

open Exchange TerminalModes

variable [TerminalModes Termios]

/-! ## What a run exchanges -/

/-- What has been exchanged in a run, and the modes it has come to. -/
inductive IsAccounted
    (initial : Termios) :
    List (Exchange Termios) → Loan Termios → Prop
  | reading : IsAccounted initial [] { stage := .readingModes, modes := initial }
  | unread (failure : Failure) :
    IsAccounted initial [readModes (.error failure)]
      { stage := .finished (.failed Stage.setup failure), modes := initial }
  | entering :
    IsAccounted initial [readModes (.ok initial)]
      { stage := .enteringRaw initial, modes := initial }
  | refused (failure : Failure) :
    IsAccounted initial
      [readModes (.ok initial), setModes (raw initial) (.error failure)]
      { stage := .finished (.failed Stage.setup failure), modes := initial }
  | held {middle : List (Exchange Termios)} {stage : Stage Termios}
    (quiet : ∀ exchange ∈ middle, exchange.request.concernsModes = false)
    (follows : stage.Follows initial middle) :
    IsAccounted initial (entering initial ++ middle)
      { stage, modes := raw initial }
  | returned {middle : List (Exchange Termios)} (ending : Ending)
    (quiet : ∀ exchange ∈ middle, exchange.request.concernsModes = false)
    (follows : (Stage.restoring initial ending).Follows initial middle)
    (reply : Except Failure Unit) :
    IsAccounted initial
      (entering initial ++ middle ++ [setModes initial reply])
      { stage := .finished ending
        modes := (setModes initial reply).modesAfter (raw initial) }

variable
    {capacity : Nat}
    {Allocates : Stage Termios → Exchange Termios → Prop}
    {initial : Termios}
    {trace middle : List (Exchange Termios)}
    {loan : Loan Termios}

/-- One exchange of a run. -/
theorem IsAccounted.step
    {exchange : Exchange Termios}
    {resume : exchange.request.Reply → Stage Termios × List Entry}
    (accounted : loan.IsAccounted initial trace)
    (asks : loan.stage.next capacity = .asks exchange.request resume)
    (permitted : exchange.IsPermitted loan.modes) :
    IsAccounted initial (trace ++ [exchange])
      { stage := (resume exchange.reply).1
        modes := exchange.modesAfter loan.modes } := by
  rcases exchange with ⟨request, reply⟩
  cases accounted with
  | reading =>
    cases asks
    match (reply : Except Failure Termios) with
    | .ok read =>
      cases permitted
      exact .entering
    | .error failure => exact .unread failure
  | unread => cases asks
  | entering =>
    cases asks
    match (reply : Except Failure Unit) with
    | .ok () => exact .held (List.forall_mem_nil _) .starting
    | .error failure => exact .refused failure
  | refused => cases asks
  | @held middle stage quiet follows =>
    -- The saved modes are set by one stage only, so all others extend `middle`.
    by_cases held : ∀ ending : Ending, stage ≠ .restoring initial ending
    · rcases follows.step held asks with ⟨silent, further⟩
      rw [modesAfter_of_quiet silent, List.append_assoc]
      refine .held ?_ further
      intro exchange member
      rcases List.mem_append.mp member with earlier | last
      · exact quiet exchange earlier
      · rw [List.mem_singleton.mp last]
        exact silent
    · rcases Classical.not_forall.mp held with ⟨ending, restores⟩
      cases Classical.not_not.mp restores
      cases asks
      exact .returned ending quiet follows reply
  | returned => cases asks

/-- Where all storage is there, every run is accounted for. -/
theorem IsAccounted.of_runs
    (allocates : ∀ (stage : Stage Termios) (exchange : Exchange Termios),
      Allocates stage exchange)
    (runs :
      Runs capacity Allocates { stage := .readingModes, modes := initial }
        trace loan) :
    loan.IsAccounted initial trace := by
  induction runs with
  | none => exact .reading
  | step _ exchange _ asks permitted _ ih => exact ih.step asks permitted
  | abort _ exchange _ _ _ refused => exact absurd (allocates _ _) refused

/-- A run at its end keeps its ending, and comes to it. -/
theorem Runs.parting?
    {first : Loan Termios}
    {ending : Ending}
    {count : Nat}
    (allocates : ∀ (stage : Stage Termios) (exchange : Exchange Termios),
      Allocates stage exchange)
    (runs : Runs capacity Allocates first trace loan)
    (ends : first.stage.parting? = some (ending, count)) :
    ∃ rest : Nat,
      loan.stage.parting? = some (ending, rest) ∧
        trace.countP (!·.isInterrupted) + rest ≤ count := by
  induction runs with
  | none => exact ⟨count, ends, Nat.le_of_eq (Nat.zero_add count)⟩
  | abort _ exchange _ _ _ refused => exact absurd (allocates _ _) refused
  | step _ exchange _ asks _ _ ih =>
    rcases ih with ⟨before, found, bound⟩
    rcases Stage.parting?_step found asks with ⟨rest, next, closer⟩
    refine ⟨rest, next, ?_⟩
    rw [List.countP_append]
    omega

/-! ## What a run does with the terminal -/

/-- Raw mode was not entered: nothing was done but to try. -/
structure IsUntouched
    (initial : Termios)
    (trace : List (Exchange Termios))
    (loan : Loan Termios) : Prop where
  modes_eq : loan.modes = initial
  tried : ∀ exchange ∈ trace,
    (∃ reply : Except Failure Termios, exchange = .readModes reply) ∨
      ∃ failure : Failure,
        exchange = .setModes (raw initial) (.error failure)

/-- Raw mode was entered, and nothing has set the modes since. -/
structure IsHeld
    (initial : Termios)
    (trace : List (Exchange Termios))
    (loan : Loan Termios) : Prop where
  entered : ∃ middle : List (Exchange Termios),
    trace = entering initial ++ middle ∧
      ∀ exchange ∈ middle, exchange.request.concernsModes = false
  modes_eq : loan.modes = raw initial
  goesOn : ∀ ending : Ending, loan.stage ≠ .finished ending

/--
The modes that the terminal had were set, once and as the last thing, and what was
exchanged in raw mode has left them alone.
-/
structure IsReturned
    (initial : Termios)
    (trace middle : List (Exchange Termios))
    (loan : Loan Termios) : Prop where
  restored : ∃ reply : Except Failure Unit,
    trace = entering initial ++ middle ++ [setModes initial reply] ∧
      (reply = .ok () → loan.modes = initial) ∧
      (reply ≠ .ok () → loan.modes = raw initial)
  quiet : ∀ exchange ∈ middle, exchange.request.concernsModes = false
  isOver : ∃ ending : Ending, loan.stage = .finished ending

/-- A terminal that is set back is returned, if that succeeds. -/
theorem isReturned_setModes
    (quiet : ∀ exchange ∈ middle, exchange.request.concernsModes = false)
    (ending : Ending)
    (reply : Except Failure Unit) :
    IsReturned initial
      (entering initial ++ middle ++ [setModes initial reply]) middle
      { stage := .finished ending
        modes := (setModes initial reply).modesAfter (raw initial) } := by
  refine ⟨⟨reply, rfl, ?_, ?_⟩, quiet, ⟨ending, rfl⟩⟩
  · rintro rfl
    rfl
  · intro failed
    cases reply with
    | ok => exact absurd rfl failed
    | error failure => rfl

/-- A terminal is left alone, held, or returned. -/
theorem IsAccounted.cases
    (accounted : loan.IsAccounted initial trace) :
    loan.IsUntouched initial trace ∨ loan.IsHeld initial trace ∨
      ∃ middle : List (Exchange Termios),
        loan.IsReturned initial trace middle ∧
          ((∃ failure : Failure, middle = [startInput (.error failure)]) ∨
            startInput (.ok ()) ∈ middle ∧ Stage.IsParted middle) := by
  cases accounted with
  | reading => exact Or.inl ⟨rfl, List.forall_mem_nil _⟩
  | unread failure =>
    refine Or.inl ⟨rfl, ?_⟩
    rw [List.forall_mem_singleton]
    exact Or.inl ⟨.error failure, rfl⟩
  | entering =>
    refine Or.inl ⟨rfl, ?_⟩
    rw [List.forall_mem_singleton]
    exact Or.inl ⟨.ok initial, rfl⟩
  | refused failure =>
    refine Or.inl ⟨rfl, ?_⟩
    rw [List.forall_mem_cons, List.forall_mem_singleton]
    exact ⟨Or.inl ⟨.ok initial, rfl⟩, Or.inr ⟨failure, rfl⟩⟩
  | held quiet follows =>
    exact Or.inr (Or.inl ⟨⟨_, rfl, quiet⟩, rfl, follows.ne_finished⟩)
  | returned ending quiet follows reply =>
    refine
      Or.inr (Or.inr ⟨_, isReturned_setModes quiet ending reply, ?_⟩)
    rcases follows.of_restoring with ⟨failure, alone, -⟩ | parted
    · exact Or.inl ⟨failure, alone⟩
    · exact Or.inr parted

/-- A fault is reported only once the terminal was returned. -/
theorem IsAccounted.of_report
    {notice : Notice}
    (accounted : loan.IsAccounted initial trace)
    (reported : loan.stage.report? = some notice) :
    ∃ middle : List (Exchange Termios),
      loan.IsReturned initial trace middle ∧
        startInput (.ok ()) ∈ middle ∧ Stage.IsParted middle := by
  rcases Stage.exists_fault_of_report reported with ⟨fault, faulted⟩
  cases accounted with
  | reading => cases faulted
  | unread failure => cases faulted
  | entering => cases faulted
  | refused failure => cases faulted
  | held quiet follows => exact absurd faulted (follows.ne_finished _)
  | returned ending quiet follows reply =>
    cases faulted
    rcases follows.of_restoring with ⟨_, -, other⟩ | parted
    · cases other
    · exact ⟨_, isReturned_setModes quiet _ reply, parted⟩

/--
Where storage is there, no run is aborted.  The modes that a run enters are raw.  A
run that has not entered them has written nothing, and the terminal has the modes it
had; one that has entered them holds the terminal in them until it is finished; and
it is finished by setting the modes that the terminal had, whatever its ending is.  If
the input was not started, this is all it has done in raw mode; if it was, the farewell
was offered to the screen, and it ends all that was written unless the last offer was
refused.  The farewell resets the style, clears the screen, moves home and shows the
cursor, and leaves any display so.  What broke a run off is reported only after this.
A run that is not finished goes on; requests that fail, the end of the input, Ctrl-Q
and faults bring it to its end, and nothing else; and a run at its end needs a bounded
number of exchanges for its ending, those that are interrupted apart.
-/
theorem terminal_given_back
    (documented : AreDocumented Termios)
    (allocates : ∀ (stage : Stage Termios) (exchange : Exchange Termios),
      Allocates stage exchange)
    (runs :
      Runs capacity Allocates { stage := .readingModes, modes := initial }
        trace loan) :
    loan.isAborted = false ∧
      IsRaw (raw initial) ∧
      (loan.IsUntouched initial trace ∨ loan.IsHeld initial trace ∨
        ∃ middle : List (Exchange Termios),
          loan.IsReturned initial trace middle ∧
            ((∃ failure : Failure,
                middle = [startInput (.error failure)]) ∨
              startInput (.ok ()) ∈ middle ∧ Stage.IsParted middle)) ∧
      Stage.farewellBytes =
        Utf8.encode
          "\x1b[39m\x1b[49m\x1b[22m\x1b[24m\x1b[2J\x1b[3J\x1b[H\x1b[?25h".toList ∧
      (∀ display : Display,
        display.receive Stage.farewellBytes = display.fresh) ∧
      (∀ notice : Notice, loan.stage.report? = some notice →
        ∃ middle : List (Exchange Termios),
          loan.IsReturned initial trace middle ∧
            startInput (.ok ()) ∈ middle ∧ Stage.IsParted middle) ∧
      ((∃ ending : Ending, loan.stage = .finished ending) ∨
        ∃ (request : Request Termios)
          (resume : request.Reply → Stage Termios × List Entry),
          loan.stage.next capacity = .asks request resume) ∧
      (∀ (exchange : Exchange Termios)
          (resume : exchange.request.Reply → Stage Termios × List Entry)
          (ending : Ending),
        loan.stage.parting? = none →
          loan.stage.next capacity = .asks exchange.request resume →
            ((resume exchange.reply).1.EndsWith ending ↔
              Stage.Stops capacity loan.stage exchange ending)) ∧
      ∀ (ending : Ending) (count : Nat),
        loan.stage.parting? = some (ending, count) →
          ∀ (later : List (Exchange Termios)) (last : Loan Termios),
            Runs capacity Allocates loan later last →
              count ≤ later.countP (!·.isInterrupted) →
                last.stage = .finished ending := by
  have accounted := IsAccounted.of_runs allocates runs
  refine
    ⟨?_, isRaw_raw documented initial, accounted.cases, ?_,
      Display.receive_farewell, fun _ => accounted.of_report,
      loan.stage.next_cases capacity, ?_, ?_⟩
  · cases accounted <;> rfl
  · rfl
  · intro exchange resume ending begun asks
    exact Stage.endsWith_iff begun asks
  · intro ending count ends later last further enough
    rcases further.parting? allocates ends with ⟨rest, found, bound⟩
    have none : rest = 0 := by omega
    rw [none] at found
    exact Stage.eq_finished found

/--
The capacity is too large, the screen takes the first three bytes of the farewell
and then fails; the modes are given back.
-/
theorem terminal_given_back_after_fault :
    let initial : Modes := {}
    let failure : Failure := ⟨.brokenPipe, "broken pipe"⟩
    let rest := Stage.farewellBytes.drop 3
    let middle :=
      [startInput (.ok ()), write Stage.clearBytes (.takes 8),
        write Stage.farewellBytes (.takes 3), write rest .interrupted,
        write rest (.fails failure)]
    let trace :=
      entering initial ++ middle ++ [setModes initial (.ok ())]
    let loan : Loan Modes :=
      { stage := .finished (.faulted .capacityOverflow), modes := initial }
    Runs Capacity.storageLimit (fun _ _ => True)
        { stage := .readingModes, modes := initial } trace loan ∧
      loan.stage.report? = some (.reported "capacity overflow") ∧
      IsRaw (raw initial) ∧
      Stage.IsParted middle := by
  intro initial failure rest middle trace loan
  have start :
      Runs Capacity.storageLimit (fun _ _ => True)
        { stage := .readingModes, modes := initial } []
        { stage := .readingModes, modes := initial } :=
    .none
  have runs :
      Runs Capacity.storageLimit (fun _ _ => True)
        { stage := .readingModes, modes := initial } trace loan :=
    start
      |>.step (readModes (.ok initial)) rfl rfl rfl trivial
      |>.step (setModes (raw initial) (.ok ())) rfl rfl trivial trivial
      |>.step (startInput (.ok ())) rfl rfl trivial trivial
      |>.step (write Stage.clearBytes (.takes 8)) rfl rfl trivial trivial
      |>.step (write Stage.farewellBytes (.takes 3)) rfl rfl trivial trivial
      |>.step (write rest .interrupted) rfl rfl trivial trivial
      |>.step (write rest (.fails failure)) rfl rfl trivial trivial
      |>.step (setModes initial (.ok ())) rfl rfl trivial trivial
  rcases terminal_given_back Modes.areDocumented (fun _ _ => trivial) runs
    with ⟨-, isRaw, -, -, -, reports, -⟩
  refine ⟨runs, rfl, isRaw, ?_⟩
  rcases reports _ rfl with ⟨others, ⟨⟨reply, split, -⟩, -⟩, -, parted⟩
  rcases List.append_inj' split rfl with ⟨before, -⟩
  rwa [← List.append_cancel_left before] at parted

end Loan

end TerminalEditor
