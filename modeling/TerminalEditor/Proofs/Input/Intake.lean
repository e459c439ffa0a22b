import TerminalEditor.Input.Waiting
import TerminalEditor.Proofs.Key.Fragments

/-!
# The reader and the waits, step by step

The reader and the one who waits for events take turns in any order.  The
reader makes one read at a time, and lets go of the queue some time after its
last read.  A wait decodes an event, takes a message, or meets its deadline,
the end of the queue or a failure.  Deadlines pass at any moment while the queue
is open, whether or not a message has just arrived.
-/

namespace TerminalEditor

/-- The most bytes that a read gives. -/
def ReadResult.size : ReadResult → Nat
  | .received bytes => bytes.length
  | _ => 0

/-- What a reader passes on of one read. -/
def ReadResult.messages : ReadResult → List Message
  | .received [] => []
  | .received bytes => [.ok bytes]
  | .interrupted => []
  | .failed failure => [.error failure]
  | .ended => []

/-- The message that is taken when it is met. -/
def Arrival.messages : Arrival → List Message
  | .bytes given => [.ok given]
  | .failed failure => [.error failure]
  | .timedOut => []
  | .closed => []

/-- The reader, the queue and the decoder between two steps. -/
structure Intake where
  /-- What the reads still to be made give. -/
  script : List ReadResult
  /-- Whether the reader goes on reading. -/
  running : Bool := true
  queue : InputQueue := {}
  decoder : Decoder := {}
  /-- Whether a message has come during the present wait, if there is one. -/
  wait : Option Bool := none

/-- How a wait came to its end. -/
structure Answer where
  /-- What it met, unless an event was decoded before. -/
  cause : Option Arrival
  /-- Whether a message had come before. -/
  received : Bool
  /-- The bytes that were pending. -/
  pending : Bytes
  result : WaitResult
  deriving Repr

/-- What one step does. -/
inductive Occurrence
  | read (result : ReadResult)
  | letGo
  | call
  | take (bytes : Bytes)
  | answered (answer : Answer)
  deriving Repr

/-- Only bytes let a wait go on, and it feeds them to the decoder. -/
theorem Decoder.bytes_of_goesOn {decoder fed : Decoder}
    {received receivedNow : Bool} {arrival : Arrival}
    (met : decoder.meet received arrival = .goesOn fed receivedNow) :
    ∃ bytes : Bytes,
      arrival = .bytes bytes ∧ fed = decoder.feed bytes ∧
        receivedNow = true := by
  cases arrival with
  | bytes bytes =>
    cases met
    exact ⟨bytes, rfl, rfl, rfl⟩
  | failed failure => cases met
  | timedOut =>
    simp only [meet] at met
    split at met <;> cases met
  | closed =>
    simp only [meet] at met
    split at met <;> cases met

/--
A wait that ends without a decoded event leaves the decoder as it is, or gives
up on bytes left over: in a quiet wait, or at the end of the queue.
-/
theorem Decoder.ends_cases {decoder rest : Decoder}
    {received : Bool} {arrival : Arrival} {result : WaitResult}
    (incomplete : decode decoder.pending = none)
    (met : decoder.meet received arrival = .ends result rest) :
    (rest = decoder ∧ result.toOption.join = none ∧
        (arrival = .timedOut → received = true ∨ decoder.pending = []) ∧
        (arrival = .closed → decoder.pending = [])) ∨
      ∃ event : Event,
        givenUp? decoder.pending = some event ∧
          result = .ok (some event) ∧ rest = {} ∧
          (arrival = .timedOut ∧ received = false ∨ arrival = .closed) := by
  cases arrival with
  | bytes bytes => cases met
  | failed failure =>
    cases met
    exact Or.inl ⟨rfl, rfl, nofun, nofun⟩
  | timedOut =>
    cases received with
    | true =>
      cases met
      exact Or.inl ⟨rfl, rfl, fun _ => Or.inl rfl, nofun⟩
    | false =>
      simp only [meet, flush_of_none incomplete, Bool.false_eq_true,
        if_false, WaitStep.ends.injEq] at met
      rcases met with ⟨rfl, rfl⟩
      cases pending : decoder.pending with
      | nil =>
        exact
          Or.inl ⟨by rw [← pending], rfl, fun _ => Or.inr rfl, nofun⟩
      | cons byte later =>
        rw [givenUp?_of_ne_nil (List.cons_ne_nil byte later)]
        exact Or.inr ⟨_, rfl, rfl, rfl, Or.inl ⟨rfl, rfl⟩⟩
  | closed =>
    simp only [meet, flush_of_none incomplete] at met
    cases pending : decoder.pending with
    | nil =>
      rw [pending] at met
      cases met
      exact Or.inl ⟨by rw [← pending], rfl, nofun, fun _ => rfl⟩
    | cons byte later =>
      rw [pending, givenUp?_of_ne_nil (List.cons_ne_nil byte later)] at met
      rw [givenUp?_of_ne_nil (List.cons_ne_nil byte later)]
      cases met
      exact Or.inr ⟨_, rfl, rfl, rfl, Or.inr rfl⟩

namespace Intake

/-- What a wait may meet now, and the queue after it. -/
inductive Meets (intake : Intake) : Arrival → InputQueue → Prop
  | message {arrival : Arrival} {queue : InputQueue}
    (polled : intake.queue.poll = some (arrival, queue)) :
    Meets intake arrival queue
  | deadline
    (isOpen : intake.queue.isOpen = true) :
    Meets intake .timedOut intake.queue

/-- One step of the reader or of the one who waits. -/
inductive Step : Intake → Occurrence → Intake → Prop
  | read {intake : Intake} {result : ReadResult}
    {later : List ReadResult}
    (running : intake.running = true)
    (next : intake.script = result :: later)
    (limited : result.size ≤ InputQueue.readLimit) :
    Step intake (.read result)
      { intake with
        script := later
        running := (intake.queue.afterRead result).isOpen
        queue :=
          { intake.queue with
            messages := (intake.queue.afterRead result).messages } }
  | letGo {intake : Intake}
    (stopped : intake.running = false) :
    Step intake .letGo
      { intake with queue := { intake.queue with isOpen := false } }
  | call {intake : Intake}
    (idle : intake.wait = none) :
    Step intake .call { intake with wait := some false }
  | decode {intake : Intake} {received : Bool} {event : Event}
    {rest : Decoder}
    (waiting : intake.wait = some received)
    (decoded : intake.decoder.next = (some event, rest)) :
    Step intake
      (.answered
        ⟨none, received, intake.decoder.pending, .ok (some event)⟩)
      { intake with decoder := rest, wait := none }
  | take {intake : Intake} {received receivedNow : Bool} {bytes : Bytes}
    {queue : InputQueue} {fed : Decoder}
    (waiting : intake.wait = some received)
    (incomplete : intake.decoder.next = (none, intake.decoder))
    (meets : intake.Meets (.bytes bytes) queue)
    (goesOn :
      intake.decoder.meet received (.bytes bytes) =
        .goesOn fed receivedNow) :
    Step intake (.take bytes)
      { intake with queue, decoder := fed, wait := some receivedNow }
  | finish {intake : Intake} {received : Bool} {arrival : Arrival}
    {queue : InputQueue} {result : WaitResult} {rest : Decoder}
    (waiting : intake.wait = some received)
    (incomplete : intake.decoder.next = (none, intake.decoder))
    (meets : intake.Meets arrival queue)
    (ends : intake.decoder.meet received arrival = .ends result rest) :
    Step intake
      (.answered
        ⟨some arrival, received, intake.decoder.pending, result⟩)
      { intake with queue, decoder := rest, wait := none }

/-- What is met was in the queue, which stays open or closed. -/
theorem Meets.messages_eq {intake : Intake} {arrival : Arrival}
    {queue : InputQueue}
    (meets : intake.Meets arrival queue) :
    intake.queue.messages = arrival.messages ++ queue.messages ∧
      queue.isOpen = intake.queue.isOpen := by
  cases meets with
  | deadline isOpen => exact ⟨rfl, rfl⟩
  | message polled =>
    rw [InputQueue.poll] at polled
    split at polled
    · next queued =>
      cases polled
      exact ⟨queued, rfl⟩
    · next queued =>
      cases polled
      exact ⟨queued, rfl⟩
    · next queued =>
      split at polled
      · cases polled
      · cases polled
        exact ⟨rfl, rfl⟩

/-- The end is met in a closed queue without messages. -/
theorem Meets.queue_of_closed {intake : Intake} {queue : InputQueue}
    (meets : intake.Meets .closed queue) :
    queue = ⟨[], false⟩ := by
  cases meets with
  | message polled =>
    rw [InputQueue.poll] at polled
    split at polled
    · cases polled
    · cases polled
    · next queued =>
      split at polled
      · cases polled
      · next closed =>
        cases polled
        exact
          congr (congrArg InputQueue.mk queued)
            (Bool.eq_false_iff.mpr closed)

/-- Some steps one after the other, with what they do. -/
inductive Runs (first : Intake) : List Occurrence → Intake → Prop
  | none : Runs first [] first
  | step {trace : List Occurrence} {intake next : Intake}
    {occurrence : Occurrence}
    (earlier : Runs first trace intake)
    (last : Step intake occurrence next) :
    Runs first (trace ++ [occurrence]) next

theorem Runs.trans {first middle last : Intake}
    {before after : List Occurrence}
    (earlier : Runs first before middle)
    (later : Runs middle after last) :
    Runs first (before ++ after) last := by
  induction later with
  | none => rwa [List.append_nil]
  | step _ final ih =>
    rw [← List.append_assoc]
    exact ih.step final

/--
A wait was called for last, and a message has come since then exactly if
`received` tells so.
-/
def IsReceivedSince
    (trace : List Occurrence)
    (received : Bool) :
    Prop :=
  ∃ earlier during : List Occurrence,
    trace = earlier ++ .call :: during ∧
      .call ∉ during ∧
      (received = true ↔ ∃ bytes : Bytes, .take bytes ∈ during)

/-- A wait goes on after a step that is none of its messages. -/
theorem IsReceivedSince.concat
    {trace : List Occurrence}
    {occurrence : Occurrence}
    {received : Bool}
    (since : IsReceivedSince trace received)
    (noCall : occurrence ≠ .call)
    (noTake : ∀ bytes : Bytes, occurrence ≠ .take bytes) :
    IsReceivedSince (trace ++ [occurrence]) received := by
  rcases since with ⟨earlier, during, rfl, uncalled, tells⟩
  refine ⟨earlier, during ++ [occurrence], ?_, ?_, ?_⟩
  · rw [List.append_assoc, List.cons_append]
  · rw [List.mem_append, List.mem_singleton, not_or]
    exact ⟨uncalled, noCall.symm⟩
  · rw [tells]
    apply exists_congr
    intro bytes
    rw [List.mem_append, List.mem_singleton]
    exact (or_iff_left (noTake bytes).symm).symm

/-- One step keeps what is known of the present wait. -/
theorem Step.isReceivedSince
    {trace : List Occurrence}
    {intake next : Intake}
    {occurrence : Occurrence}
    {received : Bool}
    (step : Step intake occurrence next)
    (since : ∀ before : Bool, intake.wait = some before →
      IsReceivedSince trace before)
    (waiting : next.wait = some received) :
    IsReceivedSince (trace ++ [occurrence]) received := by
  cases step with
  | read running found limited =>
    exact (since received waiting).concat nofun nofun
  | letGo stopped => exact (since received waiting).concat nofun nofun
  | call idle =>
    cases waiting
    exact ⟨trace, [], rfl, List.not_mem_nil, by simp⟩
  | decode => cases waiting
  | @take _ _ bytes _ _ waited incomplete meets goesOn =>
    rcases since _ waited with ⟨earlier, during, rfl, uncalled, -⟩
    cases goesOn
    cases waiting
    refine ⟨earlier, during ++ [.take bytes], ?_, ?_, ?_⟩
    · rw [List.append_assoc, List.cons_append]
    · rw [List.mem_append, List.mem_singleton, not_or]
      exact ⟨uncalled, nofun⟩
    · exact
        ⟨fun _ => ⟨bytes, List.mem_append_right _ (.head _)⟩, fun _ => rfl⟩
  | finish => cases waiting

/-- An answer tells whether a message had come in the wait that it ends. -/
theorem Runs.isReceivedSince
    {first intake : Intake}
    {trace : List Occurrence}
    (runs : Runs first trace intake)
    (idle : first.wait = .none) :
    (∀ received : Bool, intake.wait = some received →
        IsReceivedSince trace received) ∧
      ∀ (before : List Occurrence) (answer : Answer)
          (after : List Occurrence),
        trace = before ++ .answered answer :: after →
          IsReceivedSince before answer.received := by
  induction runs with
  | none =>
    refine ⟨fun received waiting => ?_, fun before answer after parts => ?_⟩
    · rw [idle] at waiting
      cases waiting
    · rcases List.append_eq_nil_iff.mp parts.symm with ⟨-, impossible⟩
      cases impossible
  | @step trace intake next occurrence earlier last ih =>
    rcases ih with ⟨since, answered⟩
    refine ⟨fun _ => last.isReceivedSince since, ?_⟩
    intro before answer after parts
    rcases List.eq_nil_or_concat after with rfl | ⟨others, final, rfl⟩
    · rcases List.append_inj' parts rfl with ⟨rfl, same⟩
      cases same
      cases last with
      | decode waiting decoded => exact since _ waiting
      | finish waiting incomplete meets ends => exact since _ waiting
    · rw [List.concat_eq_append, ← List.cons_append,
        ← List.append_assoc] at parts
      exact answered before answer others (List.append_inj' parts rfl).1

/-- One step alone. -/
theorem Step.runs {first last : Intake} {occurrence : Occurrence}
    (step : Step first occurrence last) :
    Runs first [occurrence] last :=
  Runs.none.step step

/--
A wait whose deadline has passed is a way through these steps: it takes
messages and then answers.
-/
theorem waitFrom_runs
    (script : List ReadResult)
    (running received isOpen : Bool)
    (decoder : Decoder)
    (messages : List Message) :
    ∃ (taken : List Bytes) (answer : Answer),
      answer.result =
          (decoder.waitFrom received messages isOpen).1 ∧
        Runs
          ⟨script, running, ⟨messages, isOpen⟩, decoder, some received⟩
          (taken.map .take ++ [.answered answer])
          ⟨script, running,
            (decoder.waitFrom received messages isOpen).2.2,
            (decoder.waitFrom received messages isOpen).2.1, none⟩ := by
  fun_induction Decoder.waitFrom received decoder messages isOpen with
  | case1 received decoder messages event rest decoded =>
    exact ⟨[], _, rfl, (Step.decode rfl decoded).runs⟩
  | case2 received decoder rest returned bytes later ih =>
    rcases Decoder.next_eq_none_iff.mp returned with ⟨-, rfl⟩
    rcases ih with ⟨taken, answer, result, runs⟩
    refine ⟨bytes :: taken, answer, result, ?_⟩
    exact (Step.take rfl returned (.message rfl) rfl).runs.trans runs
  | case3 received decoder rest returned failure later =>
    rcases Decoder.next_eq_none_iff.mp returned with ⟨-, rfl⟩
    exact
      ⟨[], _, rfl, (Step.finish rfl returned (.message rfl) rfl).runs⟩
  | case4 received decoder rest returned arrival next _ met =>
    rcases Decoder.bytes_of_goesOn met with ⟨bytes, impossible, -⟩
    cases isOpen <;> simp [arrival] at impossible
  | case5 received decoder rest returned arrival result after met =>
    rcases Decoder.next_eq_none_iff.mp returned with ⟨-, rfl⟩
    cases isOpen with
    | true =>
      exact
        ⟨[], _, rfl, (Step.finish rfl returned (.deadline rfl) met).runs⟩
    | false =>
      exact
        ⟨[], _, rfl, (Step.finish rfl returned (.message rfl) met).runs⟩

/-- A whole wait is a call and then such a way. -/
theorem wait_runs
    (script : List ReadResult)
    (running : Bool)
    (queue : InputQueue)
    (decoder : Decoder) :
    ∃ (taken : List Bytes) (answer : Answer),
      answer.result = (decoder.wait queue).1 ∧
        Runs ⟨script, running, queue, decoder, none⟩
          (.call :: (taken.map .take ++ [.answered answer]))
          ⟨script, running, (decoder.wait queue).2.2,
            (decoder.wait queue).2.1, none⟩ := by
  rcases waitFrom_runs script running false queue.isOpen decoder
      queue.messages with
    ⟨taken, answer, result, runs⟩
  refine ⟨taken, answer, result, ?_⟩
  exact (Step.call rfl).runs.trans runs

end Intake

end TerminalEditor
