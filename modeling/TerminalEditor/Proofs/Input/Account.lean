import TerminalEditor.Proofs.Input.Intake

/-!
# An account of all input

The messages that the reader has passed on are those that waits have taken and
those still in the queue.  The bytes taken are cut where a wait gives up on
pending bytes while the queue is open.  Each part that ends so has returned the
events of its bytes in one piece and one event for the bytes left over.  The
part not ended has returned a first part of its events, and the decoder keeps
the rest.
-/

namespace TerminalEditor

/-- The bytes of some messages. -/
def bytesOf (messages : List Message) : Bytes :=
  messages.flatMap fun message => message.toOption.getD []

@[simp]
theorem bytesOf_append (before after : List Message) :
    bytesOf (before ++ after) = bytesOf before ++ bytesOf after :=
  List.flatMap_append

namespace Answer

/-- The event that a wait returned. -/
def event? (answer : Answer) : Option Event :=
  answer.result.toOption.join

/--
Whether a wait gave up on pending bytes: its deadline passed, no message had
come, and there were some.
-/
def givesUp (answer : Answer) : Bool :=
  answer.cause == some .timedOut && !answer.received &&
    !answer.pending.isEmpty

/-- Whether a wait met the end of the queue. -/
def atEnd (answer : Answer) : Bool :=
  answer.cause == some .closed

end Answer

namespace Occurrence

/-- The messages that the reader passes on. -/
def passedOn : Occurrence → List Message
  | .read result => result.messages
  | _ => []

/-- The messages that a wait takes. -/
def taken : Occurrence → List Message
  | .take bytes => [.ok bytes]
  | .answered answer =>
    match answer.cause with
    | some (.failed failure) => [.error failure]
    | _ => []
  | _ => []

/-- The events that a wait returns. -/
def events : Occurrence → List Event
  | .answered answer => answer.event?.toList
  | _ => []

/-- Whether a wait met the end of the queue. -/
def atEnd : Occurrence → Bool
  | .answered answer => answer.atEnd
  | _ => false

/-- Whether a wait returned an event for bytes left over at the end. -/
def flushesEnd : Occurrence → Bool
  | .answered answer => answer.atEnd && answer.event?.isSome
  | _ => false

end Occurrence

/-- Some of the bytes taken, and the events returned for them. -/
structure Segment where
  taken : Bytes := []
  events : List Event := []
  deriving DecidableEq, Repr

/-- The segments of a run: those ended by giving up, and the present one. -/
structure Account where
  givenUp : List Segment := []
  current : Segment := {}
  deriving DecidableEq, Repr

namespace Account

/-- The account after one more step. -/
def record (account : Account) : Occurrence → Account
  | .take bytes =>
    { account with
      current :=
        { account.current with taken := account.current.taken ++ bytes } }
  | .answered answer =>
    let current :=
      { account.current with
        events := account.current.events ++ answer.event?.toList }
    if answer.givesUp then
      ⟨account.givenUp ++ [current], {}⟩
    else
      { account with current }
  | _ => account

/-- The account of some steps. -/
def ofTrace (trace : List Occurrence) : Account :=
  trace.foldl record {}

/-- All bytes of an account. -/
def taken (account : Account) : Bytes :=
  account.givenUp.flatMap (·.taken) ++ account.current.taken

/-- All events of an account. -/
def events (account : Account) : List Event :=
  account.givenUp.flatMap (·.events) ++ account.current.events

theorem ofTrace_concat
    (trace : List Occurrence)
    (occurrence : Occurrence) :
    ofTrace (trace ++ [occurrence]) = (ofTrace trace).record occurrence := by
  rw [ofTrace, List.foldl_append]
  rfl

/-- A wait without an event and without giving up leaves the account. -/
theorem record_of_quiet {answer : Answer}
    (account : Account)
    (noEvent : answer.event? = none)
    (noGivingUp : answer.givesUp = false) :
    account.record (.answered answer) = account := by
  simp [record, noEvent, noGivingUp]

theorem record_of_givesUp {answer : Answer} {event : Event}
    (account : Account)
    (returned : answer.event? = some event)
    (givesUp : answer.givesUp = true) :
    account.record (.answered answer) =
      ⟨account.givenUp ++
          [{ account.current with
              events := account.current.events ++ [event] }],
        {}⟩ := by
  simp [record, returned, givesUp]

theorem record_of_event {answer : Answer} {event : Event}
    (account : Account)
    (returned : answer.event? = some event)
    (noGivingUp : answer.givesUp = false) :
    account.record (.answered answer) =
      { account with
        current :=
          { account.current with
            events := account.current.events ++ [event] } } := by
  simp [record, returned, noGivingUp]

theorem taken_record
    (account : Account)
    (occurrence : Occurrence) :
    (account.record occurrence).taken =
      account.taken ++ bytesOf occurrence.taken := by
  cases occurrence with
  | read result => exact (List.append_nil _).symm
  | letGo => exact (List.append_nil _).symm
  | call => exact (List.append_nil _).symm
  | take bytes =>
    simp [record, taken, Occurrence.taken, bytesOf, Except.toOption]
  | answered answer =>
    have nothing : bytesOf (Occurrence.answered answer).taken = [] := by
      simp only [Occurrence.taken]
      split <;> rfl
    rw [nothing, List.append_nil, record, taken, taken]
    split <;> simp

theorem events_record
    (account : Account)
    (occurrence : Occurrence) :
    (account.record occurrence).events =
      account.events ++ occurrence.events := by
  cases occurrence with
  | read result => exact (List.append_nil _).symm
  | letGo => exact (List.append_nil _).symm
  | call => exact (List.append_nil _).symm
  | take bytes => exact (List.append_nil _).symm
  | answered answer =>
    rw [record, events, events, Occurrence.events]
    split <;> simp

/-- An account keeps all bytes that were taken, in order. -/
theorem taken_ofTrace (trace : List Occurrence) :
    (ofTrace trace).taken = bytesOf (trace.flatMap Occurrence.taken) := by
  suffices general : ∀ account : Account,
      (trace.foldl record account).taken =
        account.taken ++ bytesOf (trace.flatMap Occurrence.taken) by
    exact general {}
  intro account
  induction trace generalizing account with
  | nil => exact (List.append_nil _).symm
  | cons first later ih =>
    rw [List.foldl_cons, ih, taken_record, List.flatMap_cons,
      bytesOf_append, List.append_assoc]

/-- An account keeps all events that were returned, in order. -/
theorem events_ofTrace (trace : List Occurrence) :
    (ofTrace trace).events = trace.flatMap Occurrence.events := by
  suffices general : ∀ account : Account,
      (trace.foldl record account).events =
        account.events ++ trace.flatMap Occurrence.events by
    exact general {}
  intro account
  induction trace generalizing account with
  | nil => exact (List.append_nil _).symm
  | cons first later ih =>
    rw [List.foldl_cons, ih, events_record, List.flatMap_cons,
      List.append_assoc]

end Account

namespace Segment

/--
A segment ended by giving up: a fresh decoder that is polled for its events
leaves bytes over, and these became the last event.
-/
def GivenUp (segment : Segment) : Prop :=
  ∃ (decoded : List Event) (residue : Bytes),
    Decoder.Drains (Decoder.feed {} segment.taken) decoded ⟨residue⟩ ∧
      residue ≠ [] ∧
      segment.events =
        decoded ++
          [if residue = [Decoder.escapeByte] then
            .plain .escape
          else
            .unknown]

/--
A segment in progress: what a fresh decoder returns for it is what was returned
so far and then what the present decoder returns.
-/
def InProgress
    (segment : Segment)
    (decoder : Decoder) :
    Prop :=
  ∃ (later : List Event) (rest : Decoder),
    Decoder.Drains decoder later rest ∧
      Decoder.Drains (Decoder.feed {} segment.taken)
        (segment.events ++ later) rest

theorem inProgress_iff
    (segment : Segment)
    (decoder : Decoder) :
    segment.InProgress decoder ↔
      Decoder.drain segment.taken =
        (segment.events ++ (Decoder.drain decoder.pending).1,
          (Decoder.drain decoder.pending).2) := by
  simp only [InProgress, Decoder.drains_iff, Decoder.takeAll,
    Decoder.pending_feed, List.nil_append, Prod.mk.injEq]
  constructor
  · rintro ⟨later, rest, ⟨rfl, rfl⟩, events, residue⟩
    exact Prod.ext events (congrArg Decoder.pending residue)
  · intro whole
    refine ⟨_, _, ⟨rfl, rfl⟩, ?_, ?_⟩
    · rw [whole]
    · rw [whole]

variable
    {segment : Segment}
    {decoder : Decoder}

/-- An event that the decoder returns is the next one of the segment. -/
theorem InProgress.decode {rest : Decoder} {event : Event}
    (inProgress : segment.InProgress decoder)
    (decoded : decoder.next = (some event, rest)) :
    InProgress { segment with events := segment.events ++ [event] }
      rest := by
  rw [inProgress_iff] at inProgress ⊢
  rw [inProgress,
    Decoder.drain_of_some (Decoder.next_eq_some_iff.mp decoded)]
  simp

/-- More bytes are taken once the decoder returns no event. -/
theorem InProgress.feed
    (inProgress : segment.InProgress decoder)
    (incomplete : Decoder.decode decoder.pending = none)
    (bytes : Bytes) :
    InProgress { segment with taken := segment.taken ++ bytes }
      (decoder.feed bytes) := by
  rw [inProgress_iff] at inProgress ⊢
  rw [Decoder.drain_of_none incomplete, List.append_nil] at inProgress
  rw [Decoder.drain_append, inProgress, Decoder.pending_feed]

/-- Bytes that are left over and given up end a segment. -/
theorem InProgress.giveUp {event : Event}
    (inProgress : segment.InProgress decoder)
    (incomplete : Decoder.decode decoder.pending = none)
    (givenUp : Decoder.givenUp? decoder.pending = some event) :
    GivenUp { segment with events := segment.events ++ [event] } := by
  rw [inProgress_iff] at inProgress
  rw [Decoder.drain_of_none incomplete, List.append_nil] at inProgress
  have nonempty : decoder.pending ≠ [] := by
    intro empty
    rw [empty] at givenUp
    cases givenUp
  rw [Decoder.givenUp?_of_ne_nil nonempty] at givenUp
  cases givenUp
  refine ⟨segment.events, decoder.pending, ?_, nonempty, rfl⟩
  rw [Decoder.drains_iff, Decoder.takeAll, Decoder.pending_feed,
    List.nil_append, inProgress]

/-- Nothing is in progress at first. -/
theorem inProgress_empty : InProgress {} {} := by
  rw [inProgress_iff]
  rw [Decoder.drain_of_none rfl]
  rfl

end Segment

namespace Intake

/-- What holds of the reader, the queue and the waits after some steps. -/
structure Accounts
    (trace : List Occurrence)
    (intake : Intake) : Prop where
  passedOn :
    trace.flatMap Occurrence.passedOn =
      trace.flatMap Occurrence.taken ++ intake.queue.messages
  stopped : intake.queue.isOpen = false → intake.running = false
  ended :
    trace.any Occurrence.atEnd = true →
      intake.queue = ⟨[], false⟩ ∧ intake.decoder.pending = []
  givenUp :
    ∀ segment ∈ (Account.ofTrace trace).givenUp, segment.GivenUp
  current :
    if trace.any Occurrence.flushesEnd then
      (Account.ofTrace trace).current.GivenUp
    else
      (Account.ofTrace trace).current.InProgress intake.decoder

variable
    {intake next : Intake}
    {occurrence : Occurrence}
    {trace : List Occurrence}

theorem accounts_start (script : List ReadResult) :
    Accounts [] { script } where
  passedOn := rfl
  stopped := nofun
  ended := nofun
  givenUp := nofun
  current := Segment.inProgress_empty

/-- A read puts its message at the end of an open queue. -/
theorem messages_afterRead {queue : InputQueue}
    (isOpen : queue.isOpen = true)
    (result : ReadResult) :
    (queue.afterRead result).messages =
      queue.messages ++ result.messages := by
  unfold InputQueue.afterRead
  rw [if_pos isOpen]
  match result with
  | .received [] => exact (List.append_nil _).symm
  | .received (_ :: _) => rfl
  | .interrupted => exact (List.append_nil _).symm
  | .failed _ => rfl
  | .ended => exact (List.append_nil _).symm

/-- A step puts in what is passed on and takes out what is taken. -/
theorem Step.messages_eq
    (step : Step intake occurrence next)
    (stopped : intake.queue.isOpen = false → intake.running = false) :
    intake.queue.messages ++ occurrence.passedOn =
        occurrence.taken ++ next.queue.messages ∧
      (next.queue.isOpen = false → next.running = false) := by
  cases step with
  | @read result later running found limited =>
    have isOpen : intake.queue.isOpen = true := by
      cases closed : intake.queue.isOpen with
      | true => rfl
      | false => exact absurd running (stopped closed ▸ Bool.false_ne_true)
    constructor
    · exact (messages_afterRead isOpen result).symm
    · intro closed
      exact absurd isOpen (closed ▸ Bool.false_ne_true)
  | letGo halted => exact ⟨List.append_nil _, fun _ => halted⟩
  | call idle => exact ⟨List.append_nil _, stopped⟩
  | decode waiting decoded => exact ⟨List.append_nil _, stopped⟩
  | take waiting incomplete meets goesOn =>
    rcases meets.messages_eq with ⟨queued, sameOpen⟩
    constructor
    · exact (List.append_nil _).trans queued
    · intro closed
      exact stopped (sameOpen ▸ closed)
  | @finish received arrival queue result rest waiting incomplete meets
      ends =>
    rcases meets.messages_eq with ⟨queued, sameOpen⟩
    constructor
    · cases arrival with
      | bytes bytes => cases ends
      | failed failure => exact (List.append_nil _).trans queued
      | timedOut => exact (List.append_nil _).trans queued
      | closed => exact (List.append_nil _).trans queued
    · intro closed
      exact stopped (sameOpen ▸ closed)

/-- A wait that ends without an event and in time leaves the account. -/
theorem record_of_quiet_end {received : Bool} {arrival : Arrival}
    {pending : Bytes} {result : WaitResult}
    (account : Account)
    (noEvent : result.toOption.join = none)
    (inTime : arrival = .timedOut → received = true ∨ pending = []) :
    account.record
        (.answered ⟨some arrival, received, pending, result⟩) = account ∧
      Occurrence.flushesEnd
          (.answered ⟨some arrival, received, pending, result⟩) =
        false := by
  constructor
  · refine Account.record_of_quiet account noEvent ?_
    cases received with
    | true => simp [Answer.givesUp]
    | false =>
      by_cases late : arrival = .timedOut
      · simp [Answer.givesUp, (inTime late).resolve_left nofun]
      · simp [Answer.givesUp, late]
  · simp [Occurrence.flushesEnd, Answer.event?, noEvent]

/-- At the end of a closed queue nothing is taken, decoded or given up. -/
theorem Step.of_finished
    (step : Step intake occurrence next)
    (finished : intake.queue = ⟨[], false⟩ ∧ intake.decoder.pending = [])
    (halted : intake.running = false)
    (account : Account) :
    (next.queue = ⟨[], false⟩ ∧ next.decoder.pending = []) ∧
      account.record occurrence = account ∧
      occurrence.flushesEnd = false := by
  rcases finished with ⟨queueEq, noBytes⟩
  cases step with
  | read running found limited => exact absurd running (by simp [halted])
  | letGo stopped =>
    exact ⟨⟨by simp [queueEq], noBytes⟩, rfl, rfl⟩
  | call idle => exact ⟨⟨queueEq, noBytes⟩, rfl, rfl⟩
  | decode waiting decoded =>
    have impossible := Decoder.next_eq_some_iff.mp decoded
    rw [noBytes] at impossible
    cases impossible
  | take waiting incomplete meets goesOn =>
    have impossible := meets.messages_eq.1
    rw [queueEq] at impossible
    cases impossible
  | @finish received arrival queue result rest waiting incomplete meets
      ends =>
    have queueAfter : queue = ⟨[], false⟩ := by
      rcases meets.messages_eq with ⟨queued, sameOpen⟩
      rw [queueEq] at queued sameOpen
      exact
        congr
          (congrArg InputQueue.mk
            (List.append_eq_nil_iff.mp queued.symm).2)
          sameOpen
    rcases Decoder.ends_cases (Decoder.next_eq_none_iff.mp incomplete).1
      ends with ⟨rfl, noEvent, inTime, -⟩ | ⟨event, givenUp, -, -, -⟩
    · exact
        ⟨⟨queueAfter, noBytes⟩,
          record_of_quiet_end account noEvent inTime⟩
    · rw [noBytes] at givenUp
      cases givenUp

/-- A wait that meets the end of the queue leaves no bytes pending. -/
theorem Step.finished_of_atEnd
    (step : Step intake occurrence next)
    (atEnd : occurrence.atEnd = true) :
    next.queue = ⟨[], false⟩ ∧ next.decoder.pending = [] := by
  cases step with
  | read running found limited => cases atEnd
  | letGo stopped => cases atEnd
  | call idle => cases atEnd
  | decode waiting decoded => cases atEnd
  | take waiting incomplete meets goesOn => cases atEnd
  | @finish received arrival queue result rest waiting incomplete meets
      ends =>
    have closed : arrival = .closed := by
      simpa [Occurrence.atEnd, Answer.atEnd] using atEnd
    subst closed
    refine ⟨meets.queue_of_closed, ?_⟩
    rcases Decoder.ends_cases (Decoder.next_eq_none_iff.mp incomplete).1
      ends with ⟨rfl, -, -, noBytes⟩ | ⟨event, -, -, rfl, -⟩
    · exact noBytes rfl
    · rfl

/-- One step goes on with the present segment, or ends it by giving up. -/
theorem Step.segments
    {account : Account}
    (step : Step intake occurrence next)
    (inProgress : account.current.InProgress intake.decoder)
    (givenUp : ∀ segment ∈ account.givenUp, segment.GivenUp) :
    (∀ segment ∈ (account.record occurrence).givenUp,
        segment.GivenUp) ∧
      if occurrence.flushesEnd then
        (account.record occurrence).current.GivenUp
      else
        (account.record occurrence).current.InProgress next.decoder := by
  cases step with
  | read running found limited => exact ⟨givenUp, inProgress⟩
  | letGo stopped => exact ⟨givenUp, inProgress⟩
  | call idle => exact ⟨givenUp, inProgress⟩
  | decode waiting decoded =>
    exact ⟨givenUp, inProgress.decode decoded⟩
  | take waiting incomplete meets goesOn =>
    rcases Decoder.bytes_of_goesOn goesOn with ⟨given, same, rfl, -⟩
    cases same
    exact
      ⟨givenUp,
        inProgress.feed (Decoder.next_eq_none_iff.mp incomplete).1 _⟩
  | @finish received arrival queue result rest waiting incomplete meets
      ends =>
    have undecoded := (Decoder.next_eq_none_iff.mp incomplete).1
    rcases Decoder.ends_cases undecoded ends with
      ⟨rfl, noEvent, inTime, -⟩ |
        ⟨event, known, rfl, rfl, ⟨rfl, rfl⟩ | rfl⟩
    · rcases record_of_quiet_end account noEvent inTime with
        ⟨same, noFlush⟩
      rw [same, noFlush]
      exact ⟨givenUp, inProgress⟩
    · have pending : intake.decoder.pending ≠ [] := by
        intro empty
        rw [empty] at known
        cases known
      rw [Account.record_of_givesUp account rfl
        (by simp [Answer.givesUp, pending])]
      constructor
      · intro segment member
        rcases List.mem_append.mp member with earlier | last
        · exact givenUp segment earlier
        · rw [List.mem_singleton.mp last]
          exact inProgress.giveUp undecoded known
      · exact Segment.inProgress_empty
    · rw [Account.record_of_event account rfl rfl]
      exact ⟨givenUp, inProgress.giveUp undecoded known⟩

theorem any_atEnd_of_flushesEnd
    (flushed : trace.any Occurrence.flushesEnd = true) :
    trace.any Occurrence.atEnd = true := by
  rcases List.any_eq_true.mp flushed with ⟨occurrence, member, flushes⟩
  refine List.any_eq_true.mpr ⟨occurrence, member, ?_⟩
  cases occurrence with
  | answered answer => exact (Bool.and_eq_true_iff.mp flushes).1
  | _ => cases flushes

/-- Whatever the next step is, the account stays right. -/
theorem Accounts.step
    (accounts : Accounts trace intake)
    (step : Step intake occurrence next) :
    Accounts (trace ++ [occurrence]) next := by
  have messages := step.messages_eq accounts.stopped
  have passedOn :
      (trace ++ [occurrence]).flatMap Occurrence.passedOn =
        (trace ++ [occurrence]).flatMap Occurrence.taken ++
          next.queue.messages := by
    simp only [List.flatMap_append, List.flatMap_singleton,
      accounts.passedOn, List.append_assoc, messages.1]
  -- The end of the queue is met for good, so later steps keep the account.
  by_cases finished : trace.any Occurrence.atEnd = true
  · have before := accounts.ended finished
    have halted := accounts.stopped (by rw [before.1])
    rcases step.of_finished before halted (Account.ofTrace trace) with
      ⟨after, same, noFlush⟩
    have sameDecoder : next.decoder = intake.decoder :=
      congrArg Decoder.mk (after.2.trans before.2.symm)
    refine ⟨passedOn, messages.2, fun _ => after, ?_, ?_⟩
    · rw [Account.ofTrace_concat, same]
      exact accounts.givenUp
    · rw [Account.ofTrace_concat, same, sameDecoder, List.any_append,
        List.any_cons, List.any_nil, noFlush, Bool.or_self, Bool.or_false]
      exact accounts.current
  · have notFlushed : trace.any Occurrence.flushesEnd = false := by
      rw [Bool.eq_false_iff]
      intro flushed
      exact finished (any_atEnd_of_flushesEnd flushed)
    have inProgress := accounts.current
    rw [notFlushed] at inProgress
    have segments := step.segments inProgress accounts.givenUp
    refine ⟨passedOn, messages.2, ?_, ?_, ?_⟩
    · intro ended
      simp only [List.any_append, List.any_cons, List.any_nil,
        Bool.or_false, Bool.or_eq_true] at ended
      exact step.finished_of_atEnd (ended.resolve_left finished)
    · rw [Account.ofTrace_concat]
      exact segments.1
    · rw [Account.ofTrace_concat, List.any_append, List.any_cons,
        List.any_nil, notFlushed, Bool.or_false, Bool.false_or]
      exact segments.2

/-- The account is right after any steps. -/
theorem accounts_of_runs {script : List ReadResult}
    (runs : Runs { script } trace intake) :
    Accounts trace intake := by
  induction runs with
  | none => exact accounts_start script
  | step _ last ih => exact ih.step last

end Intake

/--
After any steps of the reader and the waits, the bytes that the reader has read
are those taken by waits and then those in the queue.  Each segment ended by
giving up has returned the events of its bytes in one piece and one more for
the bytes left over.  The present segment lacks only the events of the pending
bytes, unless these were given up at the end of the queue; once a wait has met
that end, nothing is pending or queued.  An answer tells that a message had come
exactly if one was taken since its wait was called for.
-/
theorem input_accounted {script : List ReadResult}
    {trace : List Occurrence} {intake : Intake}
    (runs : Intake.Runs { script } trace intake) :
    bytesOf (trace.flatMap Occurrence.passedOn) =
        (Account.ofTrace trace).taken ++ bytesOf intake.queue.messages ∧
      trace.flatMap Occurrence.passedOn =
        trace.flatMap Occurrence.taken ++ intake.queue.messages ∧
      (Account.ofTrace trace).taken =
        bytesOf (trace.flatMap Occurrence.taken) ∧
      (Account.ofTrace trace).events =
        trace.flatMap Occurrence.events ∧
      (∀ segment ∈ (Account.ofTrace trace).givenUp, segment.GivenUp) ∧
      (if trace.any Occurrence.flushesEnd then
        (Account.ofTrace trace).current.GivenUp
      else
        (Account.ofTrace trace).current.InProgress intake.decoder) ∧
      (trace.any Occurrence.atEnd = true →
        intake.queue = ⟨[], false⟩ ∧ intake.decoder.pending = []) ∧
      ∀ (before : List Occurrence) (answer : Answer)
          (after : List Occurrence),
        trace = before ++ .answered answer :: after →
          Intake.IsReceivedSince before answer.received := by
  have accounts := Intake.accounts_of_runs runs
  refine
    ⟨?_, accounts.passedOn, Account.taken_ofTrace trace,
      Account.events_ofTrace trace, accounts.givenUp, accounts.current,
      accounts.ended, (runs.isReceivedSince rfl).2⟩
  rw [accounts.passedOn, bytesOf_append, Account.taken_ofTrace]

/-- An escape byte is given up after a quiet wait, and a letter comes later. -/
theorem late_letter_accounted :
    Intake.Runs { script := [.received [0x1b], .received [0x41]] }
        [.call, .read (.received [0x1b]), .take [0x1b],
          .answered ⟨some .timedOut, true, [0x1b], .ok none⟩,
          .call,
          .answered
            ⟨some .timedOut, false, [0x1b], .ok (some (.plain .escape))⟩,
          .read (.received [0x41]), .call, .take [0x41],
          .answered
            ⟨none, true, [0x41], .ok (some (.plain (.char 'A')))⟩]
        { script := [] } ∧
      Segment.GivenUp ⟨[0x1b], [.plain .escape]⟩ ∧
      Segment.InProgress ⟨[0x41], [.plain (.char 'A')]⟩ {} := by
  have runs :
      Intake.Runs { script := [.received [0x1b], .received [0x41]] }
        [.call, .read (.received [0x1b]), .take [0x1b],
          .answered ⟨some .timedOut, true, [0x1b], .ok none⟩,
          .call,
          .answered
            ⟨some .timedOut, false, [0x1b], .ok (some (.plain .escape))⟩,
          .read (.received [0x41]), .call, .take [0x41],
          .answered
            ⟨none, true, [0x41], .ok (some (.plain (.char 'A')))⟩]
        { script := [] } :=
    (((((((((Intake.Runs.none.step (.call rfl)).step
      (.read rfl rfl (by decide))).step
      (.take rfl rfl (.message rfl) rfl)).step
      (.finish rfl rfl (.deadline rfl) rfl)).step
      (.call rfl)).step
      (.finish rfl rfl (.deadline rfl) rfl)).step
      (.read rfl rfl (by decide))).step
      (.call rfl)).step
      (.take rfl rfl (.message rfl) rfl)).step
      (.decode rfl rfl)
  have accounted := input_accounted runs
  exact
    ⟨runs, accounted.2.2.2.2.1 _ (List.mem_singleton.mpr rfl),
      accounted.2.2.2.2.2.1⟩

end TerminalEditor
