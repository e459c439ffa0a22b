import TerminalEditor.Screen.Output

/-!
# What reaches the sink

Only a flush offers bytes to the sink.  It offers all bytes that are pending until
the sink has taken them or refuses to take more.  In the first case nothing is
pending any more, whatever the sink's own flush comes to; in the second the
pending bytes are kept whole, also the ones that were taken.  So what is added to an
output reaches the sink in one piece with the first flush that is not refused.
-/

namespace TerminalEditor

namespace Acceptance

/-- The number of bytes that a sink takes of an offer. -/
def count : Acceptance → Nat
  | .takes count => count
  | _ => 0

/-- The failure of a sink that refuses to go on. -/
def refusal? : Acceptance → Option Failure
  | .takes 0 => some .nothingAccepted
  | .takes _ => none
  | .interrupted => none
  | .fails failure => some failure

/-- The number of bytes that a sink takes of some offers. -/
def total : List Acceptance → Nat
  | [] => 0
  | first :: later => first.count + total later

variable {answer : Acceptance}

/-- A sink refuses by taking nothing or by failing. -/
theorem eq_of_refusal {failure : Failure}
    (refused : answer.refusal? = some failure) :
    answer = .fails failure ∨
      answer = .takes 0 ∧ failure = .nothingAccepted := by
  match answer with
  | .takes 0 =>
    cases refused
    exact Or.inr ⟨rfl, rfl⟩
  | .takes (_ + 1) => cases refused
  | .interrupted => cases refused
  | .fails _ =>
    cases refused
    exact Or.inl rfl

theorem step_of_refusal {failure : Failure}
    (refused : answer.refusal? = some failure)
    (remaining : Bytes) :
    answer.step remaining = .stops failure := by
  rcases eq_of_refusal refused with rfl | ⟨rfl, rfl⟩
  · rfl
  · rfl

theorem count_of_refusal {failure : Failure}
    (refused : answer.refusal? = some failure) :
    answer.count = 0 := by
  rcases eq_of_refusal refused with rfl | ⟨rfl, -⟩
  · rfl
  · rfl

theorem step_of_none
    (accepted : answer.refusal? = none)
    (remaining : Bytes) :
    answer.step remaining = .goesOn (remaining.drop answer.count) := by
  match answer with
  | .takes 0 => cases accepted
  | .takes (_ + 1) => rfl
  | .interrupted => rfl
  | .fails _ => cases accepted

/-- Some answer takes an offer as a whole. -/
theorem exists_whole (bytes : Bytes) :
    ∃ answer : Acceptance,
      answer.refusal? = none ∧ answer.step bytes = .goesOn [] := by
  cases bytes with
  | nil => exact ⟨.interrupted, rfl, rfl⟩
  | cons byte later =>
    refine ⟨.takes (later.length + 1), rfl, ?_⟩
    exact congrArg OfferStep.goesOn List.drop_length

end Acceptance

/--
A sink that gives these answers takes `count` bytes of `length` that are offered,
and then refuses to take the rest.
-/
def Refuses
    (answers : List Acceptance)
    (length count : Nat)
    (failure : Failure) :
    Prop :=
  ∃ (earlier : List Acceptance) (answer : Acceptance)
    (later : List Acceptance),
    answers = earlier ++ answer :: later ∧
      (∀ other ∈ earlier, other.refusal? = none) ∧
      answer.refusal? = some failure ∧
      count = Acceptance.total earlier ∧
      count < length

namespace Refuses

variable
    {answer : Acceptance}
    {later : List Acceptance}
    {length count : Nat}
    {failure : Failure}

/-- The first answer refuses. -/
theorem head
    (refused : answer.refusal? = some failure)
    (present : 0 < length) :
    Refuses (answer :: later) length 0 failure :=
  ⟨[], answer, later, rfl, nofun, refused, rfl, present⟩

/-- An answer after the first one refuses. -/
theorem cons
    (accepted : answer.refusal? = none)
    (refuses : Refuses later (length - answer.count) count failure) :
    Refuses (answer :: later) length (answer.count + count) failure := by
  rcases refuses with
    ⟨earlier, refusing, others, rfl, before, refused, rfl, short⟩
  refine
    ⟨answer :: earlier, refusing, others, rfl, ?_, refused, rfl, ?_⟩
  · rw [List.forall_mem_cons]
    exact ⟨accepted, before⟩
  · omega

/-- Either the first answer refuses or one after it. -/
theorem cases_cons
    (refuses : Refuses (answer :: later) length count failure) :
    (answer.refusal? = some failure ∧ count = 0) ∨
      answer.refusal? = none ∧
        ∃ rest : Nat,
          count = answer.count + rest ∧
            Refuses later (length - answer.count) rest failure := by
  rcases refuses with
    ⟨earlier, refusing, others, found, before, refused, rfl, short⟩
  cases earlier with
  | nil =>
    cases found
    exact Or.inl ⟨refused, rfl⟩
  | cons first between =>
    cases found
    rw [List.forall_mem_cons] at before
    refine Or.inr ⟨before.1, Acceptance.total between, rfl, ?_⟩
    refine
      ⟨between, refusing, others, rfl, before.2, refused, rfl, ?_⟩
    rw [Acceptance.total] at short
    omega

end Refuses

/-- An offer that is taken in part goes on with the rest. -/
theorem offerAll_cons {answer : Acceptance}
    (accepted : answer.refusal? = none)
    {remaining : Bytes}
    (present : remaining ≠ [])
    (later : List Acceptance) :
    offerAll remaining (answer :: later) =
      (remaining.take answer.count ++
          (offerAll (remaining.drop answer.count) later).1,
        (offerAll (remaining.drop answer.count) later).2) := by
  have taken :
      remaining.take
          (remaining.length - (remaining.drop answer.count).length) =
        remaining.take answer.count := by
    rw [List.length_drop, List.take_eq_take_iff]
    omega
  have nonempty : remaining.isEmpty = false := by
    rw [List.isEmpty_eq_false_iff]
    exact present
  rw [offerAll, nonempty, if_neg Bool.false_ne_true,
    Acceptance.step_of_none accepted]
  simp only [taken]

/-- Of an offer that is refused, the sink has taken what it said. -/
theorem offerAll_of_refuses
    {answers : List Acceptance}
    {remaining : Bytes}
    {count : Nat}
    {failure : Failure}
    (refuses : Refuses answers remaining.length count failure) :
    offerAll remaining answers =
      (remaining.take count, .error failure) := by
  induction answers generalizing remaining count with
  | nil =>
    rcases refuses with ⟨earlier, answer, later, found, -⟩
    exact absurd found.symm (by simp)
  | cons answer later ih =>
    have present : remaining ≠ [] := by
      rintro rfl
      rcases refuses with ⟨_, _, _, -, -, -, -, short⟩
      exact Nat.not_lt_zero count short
    rcases refuses.cases_cons with
      ⟨refused, rfl⟩ | ⟨accepted, rest, rfl, others⟩
    · have nonempty : remaining.isEmpty = false := by
        rw [List.isEmpty_eq_false_iff]
        exact present
      rw [offerAll, nonempty, if_neg Bool.false_ne_true,
        Acceptance.step_of_refusal refused, List.take_zero]
    · rw [← List.length_drop] at others
      rw [offerAll_cons accepted present, ih others, List.take_add]

/-- An offer that is not refused is taken as a whole. -/
theorem offerAll_of_not_refuses
    {answers : List Acceptance}
    {remaining : Bytes}
    (taken :
      ∀ (count : Nat) (failure : Failure),
        ¬ Refuses answers remaining.length count failure) :
    offerAll remaining answers = (remaining, .ok ()) := by
  induction answers generalizing remaining with
  | nil => rfl
  | cons answer later ih =>
    by_cases nothing : remaining = []
    · rw [nothing]
      rfl
    · cases refused : answer.refusal? with
      | some failure =>
        exact
          absurd (Refuses.head refused (List.length_pos_iff.mpr nothing))
            (taken 0 failure)
      | none =>
        have others :
            ∀ (count : Nat) (failure : Failure),
              ¬ Refuses later (remaining.drop answer.count).length count
                failure := by
          intro count failure refuses
          rw [List.length_drop] at refuses
          exact taken _ failure (Refuses.cons refused refuses)
        rw [offerAll_cons refused nothing, ih others,
          List.take_append_drop]

namespace Output

/-- A flush that is refused keeps all that is pending. -/
theorem flush_of_refuses
    (output : Output)
    {answers : List Acceptance}
    {count : Nat}
    {failure : Failure}
    (refuses : Refuses answers output.pending.length count failure)
    (sinkFlush : Except Failure Unit) :
    output.flush answers sinkFlush =
      ⟨output, output.pending.take count, .error failure⟩ := by
  rw [flush, offerAll_of_refuses refuses]

/-- A flush that is not refused leaves nothing pending. -/
theorem flush_of_not_refuses
    (output : Output)
    {answers : List Acceptance}
    (taken :
      ∀ (count : Nat) (failure : Failure),
        ¬ Refuses answers output.pending.length count failure)
    (sinkFlush : Except Failure Unit) :
    output.flush answers sinkFlush = ⟨{}, output.pending, sinkFlush⟩ := by
  rw [flush, offerAll_of_not_refuses taken]

end Output

/-! ## Uses of an output -/

/-- One use of an output, with what its sink answers to a flush. -/
inductive OutputUse
  | add (commands : List Command)
  | flush (answers : List Acceptance) (sinkFlush : Except Failure Unit)

/-- One flush, with what was pending and what the sink answered. -/
structure FlushAttempt where
  pending : Bytes
  answers : List Acceptance
  sinkFlush : Except Failure Unit
  flush : Output.Flush

/-- Whether the sink took all that was pending. -/
def FlushAttempt.Writes (attempt : FlushAttempt) : Prop :=
  ∀ (count : Nat) (failure : Failure),
    ¬ Refuses attempt.answers attempt.pending.length count failure

/-- A flush takes all that is pending and forgets it, or keeps all of it. -/
structure FlushAttempt.TakesOrKeeps (attempt : FlushAttempt) : Prop where
  takes :
    attempt.Writes →
      attempt.flush = ⟨{}, attempt.pending, attempt.sinkFlush⟩
  keeps :
    ∀ (count : Nat) (failure : Failure),
      Refuses attempt.answers attempt.pending.length count failure →
        attempt.flush =
          ⟨⟨attempt.pending⟩, attempt.pending.take count,
            .error failure⟩

/-- A flush that succeeds wrote all that was pending. -/
theorem FlushAttempt.TakesOrKeeps.writes {attempt : FlushAttempt}
    (takesOrKeeps : attempt.TakesOrKeeps)
    (succeeded : attempt.flush.result = .ok ()) :
    attempt.Writes := by
  intro count failure refuses
  rw [takesOrKeeps.keeps count failure refuses] at succeeded
  cases succeeded

/-- A flush that does not write keeps what was pending. -/
theorem FlushAttempt.TakesOrKeeps.output_eq {attempt : FlushAttempt}
    (takesOrKeeps : attempt.TakesOrKeeps)
    (refused : ¬ attempt.Writes) :
    attempt.flush.output = ⟨attempt.pending⟩ := by
  apply Classical.byContradiction
  intro changed
  apply refused
  intro count failure refuses
  apply changed
  rw [takesOrKeeps.keeps count failure refuses]

/-- An output, what its sink has received, and the flushes so far. -/
structure Delivery where
  output : Output := {}
  received : Bytes := []
  attempts : List FlushAttempt := []

namespace Delivery

/-- The flush that the sink answers so. -/
def attempt
    (delivery : Delivery)
    (answers : List Acceptance)
    (sinkFlush : Except Failure Unit) :
    FlushAttempt where
  pending := delivery.output.pending
  answers
  sinkFlush
  flush := delivery.output.flush answers sinkFlush

/-- The output and its sink after one use. -/
def use (delivery : Delivery) : OutputUse → Delivery
  | .add commands =>
    { delivery with output := delivery.output.add commands }
  | .flush answers sinkFlush =>
    let attempt := delivery.attempt answers sinkFlush
    { output := attempt.flush.output
      received := delivery.received ++ attempt.flush.taken
      attempts := delivery.attempts ++ [attempt] }

/-- The output and its sink after some uses. -/
def useAll
    (delivery : Delivery)
    (uses : List OutputUse) :
    Delivery :=
  uses.foldl use delivery

/-- The commands that some uses add. -/
def added : List OutputUse → List Command
  | [] => []
  | .add commands :: later => commands ++ added later
  | .flush _ _ :: later => added later

theorem takesOrKeeps_attempt
    (delivery : Delivery)
    (answers : List Acceptance)
    (sinkFlush : Except Failure Unit) :
    (delivery.attempt answers sinkFlush).TakesOrKeeps where
  takes writes :=
    delivery.output.flush_of_not_refuses writes sinkFlush
  keeps _ _ refuses :=
    delivery.output.flush_of_refuses refuses sinkFlush

/-- What holds of an output and its sink after any uses. -/
structure IsAccounted (delivery : Delivery) : Prop where
  received_eq :
    delivery.received = delivery.attempts.flatMap (·.flush.taken)
  settled : ∀ attempt ∈ delivery.attempts, attempt.TakesOrKeeps

variable {delivery : Delivery}

theorem IsAccounted.use
    (accounted : delivery.IsAccounted)
    (use : OutputUse) :
    (delivery.use use).IsAccounted := by
  cases use with
  | add commands => exact ⟨accounted.received_eq, accounted.settled⟩
  | flush answers sinkFlush =>
    constructor
    · rw [Delivery.use, accounted.received_eq, List.flatMap_append,
        List.flatMap_singleton]
    · intro attempt member
      rcases List.mem_append.mp member with earlier | last
      · exact accounted.settled attempt earlier
      · rw [List.mem_singleton.mp last]
        exact takesOrKeeps_attempt delivery answers sinkFlush

theorem IsAccounted.useAll
    (accounted : delivery.IsAccounted)
    (uses : List OutputUse) :
    (delivery.useAll uses).IsAccounted := by
  induction uses generalizing delivery with
  | nil => exact accounted
  | cons first later ih => exact ih (accounted.use first)

/-- Uses add attempts behind the ones there are. -/
theorem exists_attempts
    (delivery : Delivery)
    (uses : List OutputUse) :
    ∃ since : List FlushAttempt,
      (delivery.useAll uses).attempts = delivery.attempts ++ since := by
  induction uses generalizing delivery with
  | nil => exact ⟨[], (List.append_nil _).symm⟩
  | cons first later ih =>
    rcases ih (delivery.use first) with ⟨since, found⟩
    cases first with
    | add commands => exact ⟨since, found⟩
    | flush answers sinkFlush =>
      refine ⟨delivery.attempt answers sinkFlush :: since, ?_⟩
      exact found.trans (List.append_assoc _ _ _)

/-- As long as no flush writes, what is added waits behind what was pending. -/
theorem pending_useAll
    (delivery : Delivery)
    (uses : List OutputUse)
    {since : List FlushAttempt}
    (attempts :
      (delivery.useAll uses).attempts = delivery.attempts ++ since)
    (refused : ∀ attempt ∈ since, ¬ attempt.Writes) :
    (delivery.useAll uses).output.pending =
      delivery.output.pending ++ Command.bytesOf (added uses) := by
  induction uses generalizing delivery since with
  | nil => exact (List.append_nil _).symm
  | cons first later ih =>
    cases first with
    | add commands =>
      rw [added, Command.bytesOf_append, ← List.append_assoc]
      exact ih (delivery.use (.add commands)) attempts refused
    | flush answers sinkFlush =>
      rcases exists_attempts (delivery.use (.flush answers sinkFlush))
          later with
        ⟨others, found⟩
      have split :
          since = delivery.attempt answers sinkFlush :: others := by
        apply (List.append_right_inj delivery.attempts).mp
        rw [← attempts]
        exact found.trans (List.append_assoc _ _ _)
      rw [split, List.forall_mem_cons] at refused
      -- The later uses start from the same pending bytes.
      have kept :
          (delivery.attempt answers sinkFlush).flush.output =
            delivery.output :=
        (takesOrKeeps_attempt delivery answers sinkFlush).output_eq
          refused.1
      rw [added, ← kept]
      exact ih (delivery.use (.flush answers sinkFlush)) found refused.2

/-- If every flush writes, all that was added is received or pending. -/
theorem received_useAll
    (delivery : Delivery)
    (uses : List OutputUse)
    (written :
      ∀ attempt ∈ (delivery.useAll uses).attempts, attempt.Writes) :
    (delivery.useAll uses).received ++
        (delivery.useAll uses).output.pending =
      delivery.received ++ delivery.output.pending ++
        Command.bytesOf (added uses) := by
  induction uses generalizing delivery with
  | nil => exact (List.append_nil _).symm
  | cons first later ih =>
    have rest := ih (delivery.use first) written
    cases first with
    | add commands =>
      rw [added, Command.bytesOf_append, ← List.append_assoc,
        List.append_assoc delivery.received]
      exact rest
    | flush answers sinkFlush =>
      rcases exists_attempts (delivery.use (.flush answers sinkFlush))
          later with
        ⟨others, found⟩
      have writes : (delivery.attempt answers sinkFlush).Writes := by
        apply written
        rw [useAll, List.foldl_cons, ← useAll, found]
        simp [use]
      -- A flush that writes moves bytes over and leaves both parts together alone.
      have same :
          (delivery.use (.flush answers sinkFlush)).received ++
              (delivery.use (.flush answers sinkFlush)).output.pending =
            delivery.received ++ delivery.output.pending := by
        rw [use,
          (takesOrKeeps_attempt delivery answers sinkFlush).takes writes]
        exact List.append_nil _
      rw [added, ← same]
      exact rest

/-- A new output and its sink after some uses. -/
def after (uses : List OutputUse) : Delivery :=
  useAll {} uses

theorem after_append (first second : List OutputUse) :
    after (first ++ second) = (after first).useAll second :=
  List.foldl_append

theorem isAccounted_after (uses : List OutputUse) :
    (after uses).IsAccounted :=
  IsAccounted.useAll ⟨rfl, List.forall_mem_nil _⟩ uses

/-- A flush is the last attempt behind the ones before it. -/
theorem attempts_after_flush
    (before : List OutputUse)
    (answers : List Acceptance)
    (sinkFlush : Except Failure Unit) :
    (after (before ++ [.flush answers sinkFlush])).attempts =
      (after before).attempts ++
        [(after before).attempt answers sinkFlush] := by
  rw [after_append]
  rfl

/-- The first flush that writes takes commands behind what was pending before. -/
theorem exists_taken
    (before middle : List OutputUse)
    (commands : List Command)
    (answers : List Acceptance)
    (sinkFlush : Except Failure Unit) :
    ∃ (since : List FlushAttempt) (last : FlushAttempt),
      (after
          ((before ++ .add commands :: middle) ++
            [.flush answers sinkFlush])).attempts =
          (after before).attempts ++ since ++ [last] ∧
        ((∀ attempt ∈ since, ¬ attempt.Writes) →
          last.Writes →
            last.flush.taken =
              (after before).output.pending ++
                Command.bytesOf commands ++
                Command.bytesOf (added middle)) := by
  let waiting := after (before ++ .add commands :: middle)
  have later :
      waiting = (after before).useAll (.add commands :: middle) :=
    after_append before _
  rcases exists_attempts (after before) (.add commands :: middle) with
    ⟨since, found⟩
  refine ⟨since, waiting.attempt answers sinkFlush, ?_, ?_⟩
  · rw [attempts_after_flush, ← found, ← later]
  · intro refused writes
    rw [(takesOrKeeps_attempt _ answers sinkFlush).takes writes]
    calc
      waiting.output.pending
        = (after before).output.pending ++
            Command.bytesOf (commands ++ added middle) := by
          rw [later]
          exact pending_useAll _ _ found refused
      _ = (after before).output.pending ++ Command.bytesOf commands ++
            Command.bytesOf (added middle) := by
          rw [Command.bytesOf_append, List.append_assoc]

/-- After a last flush the sink has all commands, if no flush fails. -/
theorem received_of_succeeded
    (before : List OutputUse)
    (answers : List Acceptance)
    (sinkFlush : Except Failure Unit)
    (succeeded :
      ∀ attempt ∈
          (after (before ++ [.flush answers sinkFlush])).attempts,
        attempt.flush.result = .ok ()) :
    (after (before ++ [.flush answers sinkFlush])).received =
      Command.bytesOf (added (before ++ [.flush answers sinkFlush])) := by
  have written :
      ∀ attempt ∈
          (after (before ++ [.flush answers sinkFlush])).attempts,
        attempt.Writes := by
    intro attempt member
    apply
      ((isAccounted_after _).settled attempt member).writes
    exact succeeded attempt member
  have nothing :
      (after (before ++ [.flush answers sinkFlush])).output = {} := by
    have last : ((after before).attempt answers sinkFlush).Writes := by
      apply written
      rw [attempts_after_flush]
      exact List.mem_append_right _ (List.mem_singleton_self _)
    rw [after_append]
    exact
      congrArg Output.Flush.output
        ((takesOrKeeps_attempt _ answers sinkFlush).takes last)
  have received := received_useAll {} _ written
  rw [← after, nothing, List.append_nil] at received
  exact received

/--
Only a flush reaches the sink, which has received what each flush took.  A flush
takes all that is pending and forgets it, also if the flush of the sink fails
afterwards, or it takes what the sink accepts before it refuses and keeps all of it.
So commands reach the sink in one piece, behind what was pending before them and
in front of what is added after them, with the first flush that writes; and if no
flush fails, a last one leaves the sink with all commands in order.
-/
theorem sink_receives (uses : List OutputUse) :
    (∀ commands : List Command,
        (after (uses ++ [.add commands])).received =
          (after uses).received) ∧
      (after uses).received =
        (after uses).attempts.flatMap (·.flush.taken) ∧
      (∀ attempt ∈ (after uses).attempts, attempt.TakesOrKeeps) ∧
      (∀ (before middle : List OutputUse) (commands : List Command)
          (answers : List Acceptance)
          (sinkFlush : Except Failure Unit),
        uses =
            (before ++ .add commands :: middle) ++
              [.flush answers sinkFlush] →
          ∃ (since : List FlushAttempt) (last : FlushAttempt),
            (after uses).attempts =
                (after before).attempts ++ since ++ [last] ∧
              ((∀ attempt ∈ since, ¬ attempt.Writes) →
                last.Writes →
                  last.flush.taken =
                    (after before).output.pending ++
                      Command.bytesOf commands ++
                      Command.bytesOf (added middle))) ∧
      ∀ (before : List OutputUse)
        (answers : List Acceptance)
        (sinkFlush : Except Failure Unit),
        uses = before ++ [.flush answers sinkFlush] →
          (∀ attempt ∈ (after uses).attempts,
            attempt.flush.result = .ok ()) →
            (after uses).received = Command.bytesOf (added uses) := by
  have accounted := isAccounted_after uses
  refine ⟨?_, accounted.received_eq, accounted.settled, ?_, ?_⟩
  · intro commands
    rw [after_append]
    rfl
  · rintro before middle commands answers sinkFlush rfl
    exact exists_taken before middle commands answers sinkFlush
  · rintro before answers sinkFlush rfl
    exact received_of_succeeded before answers sinkFlush

/--
The sink takes one byte and then nothing; the next flush offers both bytes again,
and they are gone although the flush of the sink fails.
-/
theorem sink_receives_twice :
    let failure : Failure := ⟨.brokenPipe, "broken pipe"⟩
    let uses : List OutputUse :=
      [.add [.text ['a', 'b']], .flush [.takes 1, .takes 0] (.ok ()),
        .add [.text ['c']],
        .flush [.interrupted, .takes 2] (.error failure)]
    (after uses).received = [0x61, 0x61, 0x62, 0x63] ∧
      (after uses).output.pending = [] ∧
      (after uses).attempts.map (·.flush.result) =
        [.error .nothingAccepted, .error failure] ∧
      (after uses).received =
        (after uses).attempts.flatMap (·.flush.taken) := by
  intro failure uses
  exact ⟨by decide, by decide, rfl, (sink_receives uses).2.1⟩

end Delivery

end TerminalEditor
