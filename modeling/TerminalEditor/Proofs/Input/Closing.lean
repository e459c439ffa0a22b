import TerminalEditor.Proofs.Input.Account

/-!
# The end of the input

The reader ends with its input or with its first failure, and lets go of the
queue.  A queue that is closed has a message or its end to meet at any time, so
no deadline is met any more, and what the waits come to is settled: the events of
all bytes that are left, then the failure, then one event for bytes left over,
and from then on the end of the input.
-/

namespace TerminalEditor

/-- The failure that ends the reader, if it is a failure. -/
def ReadResult.failure? : ReadResult → Option Failure
  | .failed failure => some failure
  | _ => none

/-- The result of a wait that returns an event. -/
def WaitResult.event (event : Event) : WaitResult :=
  .ok (some event)

/-- The result of a wait that ends. -/
def Occurrence.results : Occurrence → List WaitResult
  | .answered answer => [answer.result]
  | _ => []

/-- The event for bytes left over: the escape key for its byte alone. -/
def leftOver? (residue : Bytes) : Option Event :=
  if residue = [] then
    none
  else if residue = [Decoder.escapeByte] then
    some (.plain .escape)
  else
    some .unknown

/-- There is an event exactly for bytes. -/
theorem leftOver?_eq_none_iff {residue : Bytes} :
    leftOver? residue = none ↔ residue = [] := by
  constructor
  · intro nothing
    apply Decidable.byContradiction
    intro present
    rw [leftOver?, if_neg present] at nothing
    split at nothing <;> cases nothing
  · intro nothing
    exact if_pos nothing

/--
What waits come to once the reader has ended: some events, the failure, the
event for bytes left over, and the end of the input so many times.
-/
def closingResults
    (events : List Event)
    (failure? : Option Failure)
    (residue : Bytes)
    (ends : Nat) :
    List WaitResult :=
  events.map .event ++ failure?.toList.map .error ++
    (leftOver? residue).toList.map .event ++
    List.replicate ends (.error .inputClosed)

/-- One more wait after the end meets the end again. -/
theorem closingResults_succ
    (events : List Event)
    (failure? : Option Failure)
    (residue : Bytes)
    (ends : Nat) :
    closingResults events failure? residue (ends + 1) =
      closingResults events failure? residue ends ++
        [.error .inputClosed] := by
  rw [closingResults, closingResults, List.replicate_succ',
    ← List.append_assoc]

/-- No wait after the end of the reader returns without an event. -/
theorem ok_none_notMem_closingResults
    (events : List Event)
    (failure? : Option Failure)
    (residue : Bytes)
    (ends : Nat) :
    (.ok none : WaitResult) ∉
      closingResults events failure? residue ends := by
  simp [closingResults, WaitResult.event]

/-- The last read leaves a closed queue, with its failure if there is one. -/
theorem InputQueue.afterRead_of_ends
    {messages : List Message}
    {last : ReadResult}
    (ends : (afterRead ⟨messages, true⟩ last).isOpen = false) :
    afterRead ⟨messages, true⟩ last =
      ⟨messages ++ last.failure?.toList.map .error, false⟩ := by
  match last with
  | .received [] => simp [afterRead, ReadResult.failure?]
  | .received (_ :: _) => cases ends
  | .interrupted => cases ends
  | .failed failure => rfl
  | .ended => simp [afterRead, ReadResult.failure?]

namespace Decoder

/-- Giving up on bytes gives the event for bytes left over. -/
theorem givenUp?_eq_leftOver? (pending : Bytes) :
    givenUp? pending = leftOver? pending := by
  by_cases nothing : pending = []
  · rw [nothing]
    rfl
  · rw [givenUp?_of_ne_nil nothing, leftOver?, if_neg nothing]
    split <;> rfl

/-- At the end of the queue a wait gives up on bytes left over, or fails. -/
theorem meet_closed_of_none {decoder : Decoder}
    (incomplete : decode decoder.pending = none)
    (received : Bool) :
    decoder.meet received .closed =
      .ends
        ((leftOver? decoder.pending).elim (.error .inputClosed) .event)
        {} := by
  rw [meet, flush_of_none incomplete, givenUp?_eq_leftOver?]
  cases leftOver? decoder.pending <;> rfl

end Decoder

namespace Intake

/-- How far the waits have come since the reader has ended. -/
inductive Closing
    (events : List Event)
    (failure? : Option Failure)
    (residue : Bytes)
    (results : List WaitResult)
    (decoder : Decoder)
    (messages : List Message) :
    Prop
  /-- Some messages or events are left. -/
  | decoding (returned left : List Event) (chunks : List Bytes)
    (whole : events = returned ++ left)
    (drained :
      Decoder.drain (decoder.pending ++ chunks.flatten) = (left, residue))
    (results_eq : results = returned.map .event)
    (queued : messages = chunks.map .ok ++ failure?.toList.map .error)
  /-- The failure was met, and only the bytes left over remain. -/
  | decoded
    (results_eq :
      results = events.map .event ++ failure?.toList.map .error)
    (pending : decoder.pending = residue)
    (queued : messages = [])
  /-- The end was met. -/
  | ended (ends : Nat)
    (results_eq :
      results = closingResults events failure? residue ends)
    (met : residue = [] → 0 < ends)
    (pending : decoder.pending = [])
    (queued : messages = [])

namespace Closing

variable
    {events : List Event}
    {failure? : Option Failure}
    {residue : Bytes}
    {results : List WaitResult}
    {decoder : Decoder}
    {messages : List Message}

/-- The results so far start the ones that are settled. -/
theorem exists_isPrefix
    (closing :
      Closing events failure? residue results decoder messages) :
    ∃ ends : Nat,
      results <+: closingResults events failure? residue ends := by
  cases closing with
  | decoding returned left chunks whole drained results_eq queued =>
    refine ⟨0, ?_⟩
    rw [results_eq, closingResults, whole, List.map_append,
      List.append_assoc, List.append_assoc, List.append_assoc]
    exact List.prefix_append _ _
  | decoded results_eq pending queued =>
    refine ⟨0, ?_⟩
    rw [results_eq, closingResults, List.append_assoc _ _ (List.replicate _ _)]
    exact List.prefix_append _ _
  | ended ends results_eq met pending queued =>
    exact ⟨ends, results_eq ▸ List.prefix_refl _⟩

/-- Right after the failure the decoder still has the bytes left over. -/
theorem pending_of_failure {failure : Failure}
    (closing :
      Closing events (some failure) residue results decoder messages)
    (returned : results.length = events.length + 1) :
    decoder.pending = residue := by
  cases closing with
  | decoding returned' left chunks whole drained results_eq queued =>
    rw [results_eq, whole, List.length_map, List.length_append] at returned
    omega
  | decoded results_eq pending queued => exact pending
  | ended ends results_eq met pending queued =>
    rw [results_eq, closingResults] at returned
    simp only [List.length_append, List.length_map, Option.length_toList,
      Option.isSome_some, if_true, List.length_replicate] at returned
    cases given : leftOver? residue with
    | some event =>
      rw [given, Option.isSome_some, if_pos rfl] at returned
      omega
    | none =>
      have again := met (leftOver?_eq_none_iff.mp given)
      omega

/-- An event that the decoder returns is the next one. -/
theorem returnEvent {event : Event} {rest : Decoder}
    (closing :
      Closing events failure? residue results decoder messages)
    (incomplete : Decoder.decode residue = none)
    (decoded : decoder.next = (some event, rest)) :
    Closing events failure? residue (results ++ [.event event]) rest
      messages := by
  have found := Decoder.next_eq_some_iff.mp decoded
  cases closing with
  | decoding returned left chunks whole drained results_eq queued =>
    rw [Decoder.drain_of_some (Decoder.decode_append _ found)] at drained
    cases drained
    refine .decoding (returned ++ [event]) _ chunks ?_ rfl ?_ queued
    · rw [whole, List.append_assoc]
      rfl
    · rw [results_eq, List.map_append]
      rfl
  | decoded results_eq pending queued =>
    rw [pending, incomplete] at found
    cases found
  | ended ends results_eq met pending queued =>
    rw [pending] at found
    cases found

/-- Bytes are taken off the front of the ones that are left. -/
theorem take {bytes : Bytes} {later : List Message}
    (closing :
      Closing events failure? residue results decoder
        (.ok bytes :: later)) :
    Closing events failure? residue results (decoder.feed bytes)
      later := by
  cases closing with
  | decoding returned left chunks whole drained results_eq queued =>
    cases chunks with
    | nil => cases failure? <;> cases queued
    | cons chunk others =>
      cases queued
      refine .decoding returned left others whole ?_ results_eq rfl
      rw [Decoder.pending_feed, List.append_assoc]
      exact drained
  | decoded results_eq pending queued => cases queued
  | ended ends results_eq met pending queued => cases queued

/-- The failure comes after all events of the bytes before it. -/
theorem fail {failure : Failure} {later : List Message}
    (closing :
      Closing events failure? residue results decoder
        (.error failure :: later))
    (incomplete : Decoder.decode decoder.pending = none) :
    Closing events failure? residue (results ++ [.error failure]) decoder
      later := by
  cases closing with
  | decoding returned left chunks whole drained results_eq queued =>
    cases chunks with
    | cons chunk others => cases queued
    | nil =>
      rw [List.flatten_nil, List.append_nil,
        Decoder.drain_of_none incomplete] at drained
      cases drained
      cases failure? with
      | none => cases queued
      | some known =>
        cases queued
        rw [List.append_nil] at whole
        exact .decoded (by rw [results_eq, whole]; rfl) rfl rfl
  | decoded results_eq pending queued => cases queued
  | ended ends results_eq met pending queued => cases queued

/-- Without messages the end comes next, or has come. -/
theorem decoded_or_ended
    (closing : Closing events failure? residue results decoder [])
    (incomplete : Decoder.decode decoder.pending = none) :
    (results = events.map .event ++ failure?.toList.map .error ∧
        decoder.pending = residue) ∨
      ∃ ends : Nat,
        results = closingResults events failure? residue ends ∧
          (residue = [] → 0 < ends) ∧ decoder.pending = [] := by
  cases closing with
  | decoding returned left chunks whole drained results_eq queued =>
    rw [eq_comm, List.append_eq_nil_iff, List.map_eq_nil_iff,
      List.map_eq_nil_iff] at queued
    rcases queued with ⟨rfl, noFailure⟩
    rw [List.flatten_nil, List.append_nil,
      Decoder.drain_of_none incomplete] at drained
    cases drained
    refine Or.inl ⟨?_, rfl⟩
    rw [results_eq, whole, noFailure, List.append_nil, List.map_nil,
      List.append_nil]
  | decoded results_eq pending queued =>
    exact Or.inl ⟨results_eq, pending⟩
  | ended ends results_eq met pending queued =>
    exact Or.inr ⟨ends, results_eq, met, pending⟩

/-- The end is met with the bytes left over, and then again and again. -/
theorem finish
    {received : Bool} {result : WaitResult} {rest : Decoder}
    (closing : Closing events failure? residue results decoder [])
    (incomplete : Decoder.decode decoder.pending = none)
    (ends : decoder.meet received .closed = .ends result rest) :
    Closing events failure? residue (results ++ [result]) rest [] := by
  rw [Decoder.meet_closed_of_none incomplete] at ends
  cases ends
  rcases closing.decoded_or_ended incomplete with
    ⟨results_eq, rfl⟩ | ⟨ends, results_eq, met, pending⟩
  · cases given : leftOver? decoder.pending with
    | none =>
      refine .ended 1 ?_ (fun _ => Nat.one_pos) rfl rfl
      rw [results_eq, closingResults, given, Option.toList, List.map_nil,
        List.append_nil]
      rfl
    | some event =>
      refine .ended 0 ?_ ?_ rfl rfl
      · rw [results_eq, closingResults, given, List.replicate_zero,
          List.append_nil]
        rfl
      · intro nothing
        rw [leftOver?_eq_none_iff.mpr nothing] at given
        cases given
  · refine .ended (ends + 1) ?_ (fun _ => Nat.succ_pos ends) rfl rfl
    rw [results_eq, closingResults_succ, pending]
    rfl

end Closing

variable
    {events : List Event}
    {failure? : Option Failure}
    {residue : Bytes}
    {results : List WaitResult}
    {first intake next : Intake}
    {occurrence : Occurrence}
    {trace : List Occurrence}

/-- The state once the reader has ended and let go of the queue. -/
structure IsClosed (intake : Intake) : Prop where
  stopped : intake.running = false
  closed : intake.queue.isOpen = false

/-- No deadline is met once the queue is closed. -/
theorem IsClosed.not_meets_timedOut {queue : InputQueue}
    (isClosed : intake.IsClosed) :
    ¬ intake.Meets .timedOut queue := by
  intro meets
  cases meets with
  | deadline isOpen =>
    rw [isClosed.closed] at isOpen
    cases isOpen
  | message polled =>
    rw [InputQueue.poll] at polled
    split at polled
    · cases polled
    · cases polled
    · split at polled <;> cases polled

/-- A closed queue stays closed, and messages are only taken from it. -/
theorem Step.of_closed
    (step : Step intake occurrence next)
    (isClosed : intake.IsClosed) :
    next.IsClosed ∧
      intake.queue.messages = occurrence.taken ++ next.queue.messages := by
  have moved := step.messages_eq fun _ => isClosed.stopped
  have nothing : occurrence.passedOn = [] := by
    cases step with
    | read running found limited =>
      rw [isClosed.stopped] at running
      cases running
    | _ => rfl
  rw [nothing, List.append_nil] at moved
  refine ⟨?_, moved.1⟩
  have closed : next.queue.isOpen = false := by
    cases step with
    | read running found limited =>
      rw [isClosed.stopped] at running
      cases running
    | letGo stopped => rfl
    | call idle => exact isClosed.closed
    | decode waiting decoded => exact isClosed.closed
    | take waiting incomplete meets goesOn =>
      exact meets.messages_eq.2.trans isClosed.closed
    | finish waiting incomplete meets ends =>
      exact meets.messages_eq.2.trans isClosed.closed
  exact ⟨moved.2 closed, closed⟩

/-- Whatever the next step is, the waits have come one step further. -/
theorem Closing.step
    (closing :
      Closing events failure? residue results intake.decoder
        intake.queue.messages)
    (undecoded : Decoder.decode residue = none)
    (isClosed : intake.IsClosed)
    (step : Step intake occurrence next) :
    Closing events failure? residue (results ++ occurrence.results)
      next.decoder next.queue.messages := by
  cases step with
  | read running found limited =>
    rw [isClosed.stopped] at running
    cases running
  | letGo stopped => simpa [Occurrence.results] using closing
  | call idle => simpa [Occurrence.results] using closing
  | decode waiting decoded => exact closing.returnEvent undecoded decoded
  | take waiting incomplete meets goesOn =>
    rcases Decoder.bytes_of_goesOn goesOn with ⟨given, same, rfl, -⟩
    cases same
    rw [meets.messages_eq.1] at closing
    simpa [Occurrence.results] using closing.take
  | @finish received arrival queue result rest waiting incomplete meets
      ends =>
    have unfinished := (Decoder.next_eq_none_iff.mp incomplete).1
    rw [meets.messages_eq.1] at closing
    cases arrival with
    | bytes bytes => cases ends
    | timedOut => exact absurd meets isClosed.not_meets_timedOut
    | failed failure =>
      cases ends
      exact closing.fail unfinished
    | closed =>
      rw [meets.queue_of_closed] at closing ⊢
      exact closing.finish unfinished ends

/-- A run after the end of the reader takes messages and brings waits on. -/
theorem closing_of_runs
    (runs : Runs first trace intake)
    (isClosed : first.IsClosed)
    (undecoded : Decoder.decode residue = none)
    (closing :
      Closing events failure? residue [] first.decoder
        first.queue.messages) :
    intake.IsClosed ∧
      first.queue.messages =
        trace.flatMap Occurrence.taken ++ intake.queue.messages ∧
      Closing events failure? residue (trace.flatMap Occurrence.results)
        intake.decoder intake.queue.messages := by
  induction runs with
  | none => exact ⟨isClosed, rfl, closing⟩
  | step earlier last ih =>
    rcases ih with ⟨stillClosed, taken, further⟩
    rcases last.of_closed stillClosed with ⟨nextClosed, lastTaken⟩
    refine ⟨nextClosed, ?_, ?_⟩
    · rw [taken, lastTaken, List.flatMap_append, List.flatMap_singleton,
        List.append_assoc]
    · rw [List.flatMap_append, List.flatMap_singleton]
      exact further.step undecoded stillClosed last

/-- The reader makes its last read and lets go of the queue. -/
theorem last_read_runs
    (script : List ReadResult)
    {messages : List Message}
    {last : ReadResult}
    (ends : (InputQueue.afterRead ⟨messages, true⟩ last).isOpen = false)
    (decoder : Decoder)
    (wait : Option Bool) :
    Runs ⟨last :: script, true, ⟨messages, true⟩, decoder, wait⟩
      [.read last, .letGo]
      ⟨script, false, InputQueue.afterRead ⟨messages, true⟩ last, decoder,
        wait⟩ := by
  match last with
  | .received [] =>
    exact (Step.read rfl rfl (Nat.zero_le _)).runs.step (.letGo rfl)
  | .received (_ :: _) => cases ends
  | .interrupted => cases ends
  | .failed failure =>
    exact (Step.read rfl rfl (Nat.zero_le _)).runs.step (.letGo rfl)
  | .ended =>
    exact (Step.read rfl rfl (Nat.zero_le _)).runs.step (.letGo rfl)

/-- The wait that goes on, or else the next one, takes messages and answers. -/
theorem exists_answer (intake : Intake) :
    ∃ (taken : List Bytes) (answer : Answer) (last : Intake),
      Runs intake
          ((if intake.wait = none then [.call] else []) ++
            (taken.map .take ++ [.answered answer]))
          last ∧
        last.wait = none := by
  rcases intake with ⟨script, running, ⟨messages, isOpen⟩, decoder, wait⟩
  cases wait with
  | none =>
    rcases wait_runs script running ⟨messages, isOpen⟩ decoder with
      ⟨taken, answer, -, runs⟩
    exact ⟨taken, answer, _, runs, rfl⟩
  | some received =>
    rcases waitFrom_runs script running received isOpen decoder
        messages with
      ⟨taken, answer, -, runs⟩
    exact ⟨taken, answer, _, runs, rfl⟩

end Intake

/--
Once the reader has made its last read and let go of the queue, whatever was
pending and queued and whenever deadlines pass, the waits return the events of all
these bytes in one piece, the failure of the reader, one event for the bytes left
over, and then the end of the input for ever.  The failure leaves these bytes to
the decoder, no wait returns without an event, messages are taken in order, and
every wait comes to its end.
-/
theorem results_after_end
    {script : List ReadResult}
    {chunks : List Bytes}
    {last : ReadResult}
    (ends :
      (InputQueue.afterRead ⟨chunks.map .ok, true⟩ last).isOpen = false)
    {decoder : Decoder}
    {wait : Option Bool}
    {trace : List Occurrence}
    {after : Intake}
    (runs :
      Intake.Runs
        ⟨script, false, InputQueue.afterRead ⟨chunks.map .ok, true⟩ last,
          decoder, wait⟩
        trace after) :
    Intake.Runs
        ⟨last :: script, true, ⟨chunks.map .ok, true⟩, decoder, wait⟩
        [.read last, .letGo]
        ⟨script, false, InputQueue.afterRead ⟨chunks.map .ok, true⟩ last,
          decoder, wait⟩ ∧
      ∃ (events : List Event) (residue : Bytes),
        Decoder.Drains (decoder.feed chunks.flatten) events ⟨residue⟩ ∧
        (∃ count : Nat,
          trace.flatMap Occurrence.results <+:
            closingResults events last.failure? residue count) ∧
        .ok none ∉ trace.flatMap Occurrence.results ∧
        (last.failure? ≠ none →
          (trace.flatMap Occurrence.results).length = events.length + 1 →
            after.decoder.pending = residue) ∧
        trace.flatMap Occurrence.taken ++ after.queue.messages =
          chunks.map .ok ++ last.failure?.toList.map .error ∧
        ∃ (taken : List Bytes) (answer : Answer) (final : Intake),
          Intake.Runs after
              ((if after.wait = none then [.call] else []) ++
                (taken.map .take ++ [.answered answer]))
              final ∧
            final.wait = none := by
  refine ⟨Intake.last_read_runs script ends decoder wait, ?_⟩
  let whole := Decoder.drain (decoder.pending ++ chunks.flatten)
  have closing :
      Intake.Closing whole.1 last.failure? whole.2 [] decoder
        (chunks.map .ok ++ last.failure?.toList.map .error) :=
    .decoding [] whole.1 chunks rfl rfl rfl rfl
  rw [InputQueue.afterRead_of_ends ends] at runs
  rcases Intake.closing_of_runs runs ⟨rfl, rfl⟩
      (Decoder.decode_drain_snd _) closing with
    ⟨-, taken, further⟩
  rcases further.exists_isPrefix with ⟨count, isPrefix⟩
  refine
    ⟨whole.1, whole.2, ?_, ⟨count, isPrefix⟩, ?_, ?_, taken.symm,
      Intake.exists_answer after⟩
  · exact (Decoder.drains_iff _ _ _).mpr rfl
  · intro member
    exact
      ok_none_notMem_closingResults _ _ _ _ (isPrefix.subset member)
  · intro failed returned
    rcases Option.ne_none_iff_exists'.mp failed with ⟨failure, known⟩
    rw [known] at further
    exact further.pending_of_failure returned

/-- A pending escape byte becomes a key, and another one is left over. -/
theorem results_after_broken_pipe :
    let failure : Failure := ⟨.brokenPipe, "broken pipe"⟩
    let last : ReadResult := .failed failure
    let trace : List Occurrence :=
      [.take [0x5b], .take [0x41, 0x1b],
        .answered ⟨none, true, [0x1b, 0x5b, 0x41, 0x1b],
          .ok (some (.plain .up))⟩,
        .call,
        .answered
          ⟨some (.failed failure), false, [0x1b], .error failure⟩]
    let after : Intake :=
      ⟨[], false, ⟨[], false⟩, ⟨[0x1b]⟩, none⟩
    (InputQueue.afterRead ⟨[.ok [0x5b], .ok [0x41, 0x1b]], true⟩
        last).isOpen = false ∧
      Intake.Runs
        ⟨[], false,
          InputQueue.afterRead ⟨[.ok [0x5b], .ok [0x41, 0x1b]], true⟩ last,
          ⟨[0x1b]⟩, some false⟩
        trace after ∧
      (∃ count : Nat,
        [.ok (some (.plain .up)), .error failure] <+:
          closingResults [.plain .up] (some failure) [0x1b] count) ∧
      after.decoder.pending = [0x1b] := by
  intro failure last trace after
  have ends :
      (InputQueue.afterRead ⟨[[0x5b], [0x41, 0x1b]].map .ok, true⟩
        last).isOpen = false :=
    rfl
  have runs :
      Intake.Runs
        ⟨[], false,
          InputQueue.afterRead ⟨[[0x5b], [0x41, 0x1b]].map .ok, true⟩ last,
          ⟨[0x1b]⟩, some false⟩
        trace after :=
    ((((Intake.Runs.none.step
      (.take rfl rfl (.message rfl) rfl)).step
      (.take rfl rfl (.message rfl) rfl)).step
      (.decode rfl rfl)).step
      (.call rfl)).step
      (.finish rfl rfl (.message rfl) rfl)
  have drained :
      Decoder.Drains
        (Decoder.feed ⟨[0x1b]⟩ [[0x5b], [0x41, 0x1b]].flatten)
        [.plain .up] ⟨[0x1b]⟩ :=
    .event rfl (.done rfl)
  rcases results_after_end ends runs with
    ⟨-, events, residue, drains, results, -, left, -⟩
  rw [Decoder.drains_iff] at drains drained
  cases drains.symm.trans drained
  exact ⟨ends, runs, results, left nofun rfl⟩

end TerminalEditor
