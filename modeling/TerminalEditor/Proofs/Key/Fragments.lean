import TerminalEditor.Proofs.Key.Segments

/-!
# Input in fragments

The first event of some bytes stays the same when more bytes follow them.  So
it does not matter how the input is cut, nor when the decoder is asked for
events in between: once it is drained, it has returned what it returns for the
whole input at once, and it is left with the same pending bytes.
-/

namespace TerminalEditor.Decoder

section Stability

variable
    {bytes rest : Bytes}
    {event : Event}

/-- Bytes that determine an event determine it whatever follows them. -/
theorem decode_append
    (more : Bytes)
    (decoded : decode bytes = some (event, rest)) :
    decode (bytes ++ more) = some (event, rest ++ more) := by
  rcases decode_eq_some_iff.mp decoded with
    ⟨segment, read, rfl⟩ | ⟨rfl, lone⟩
  · rw [List.append_assoc]
    exact read.decode_append (rest ++ more)
  · exact decode_eq_some_iff.mpr (Or.inr ⟨rfl, lone.append more⟩)

end Stability

/-- Every event takes a byte at least. -/
theorem length_drain_le (bytes : Bytes) :
    (drain bytes).1.length ≤ bytes.length := by
  fun_induction drain bytes with
  | case1 bytes incomplete => exact Nat.zero_le _
  | case2 bytes event rest decoded shorter later ih =>
    exact Nat.lt_of_le_of_lt ih shorter

/-- Nothing can be decoded of what draining leaves over. -/
theorem decode_drain_snd (bytes : Bytes) :
    decode (drain bytes).2 = none := by
  fun_induction drain bytes with
  | case1 bytes incomplete => exact incomplete
  | case2 bytes event rest decoded shorter later ih => exact ih

/-- Draining in two parts is draining the whole. -/
theorem drain_append (bytes more : Bytes) :
    drain (bytes ++ more) =
      ((drain bytes).1 ++ (drain ((drain bytes).2 ++ more)).1,
        (drain ((drain bytes).2 ++ more)).2) := by
  fun_induction drain bytes with
  | case1 bytes incomplete => rfl
  | case2 bytes event rest decoded shorter later ih =>
    rw [drain_of_some (decode_append more decoded), ih]
    rfl

end TerminalEditor.Decoder

namespace TerminalEditor

/-- One use of a decoder while input arrives. -/
inductive DecoderUse
  | feed (bytes : Bytes)
  | poll
  deriving DecidableEq, Repr

namespace Decoder

/-- The events that one use returns, and the decoder after it. -/
def use
    (decoder : Decoder) :
    DecoderUse → List Event × Decoder
  | .feed bytes => ([], decoder.feed bytes)
  | .poll => (decoder.next.1.toList, decoder.next.2)

/-- The events that some uses return, and the decoder after them. -/
def follow
    (decoder : Decoder) :
    List DecoderUse → List Event × Decoder
  | [] => ([], decoder)
  | first :: later =>
    let used := decoder.use first
    let followed := used.2.follow later
    (used.1 ++ followed.1, followed.2)

/-- The bytes that some uses feed, in order. -/
def fed : List DecoderUse → Bytes
  | [] => []
  | .feed bytes :: later => bytes ++ fed later
  | .poll :: later => fed later

/-- Polling a decoder until it has no event returns these events. -/
inductive Drains : Decoder → List Event → Decoder → Prop
  | done {decoder after : Decoder}
    (returned : decoder.next = (none, after)) :
    Drains decoder [] after
  | event {decoder middle after : Decoder} {event : Event}
    {events : List Event}
    (returned : decoder.next = (some event, middle))
    (later : Drains middle events after) :
    Drains decoder (event :: events) after

theorem next_of_none {decoder : Decoder}
    (incomplete : decode decoder.pending = none) :
    decoder.next = (none, decoder) := by
  rw [next, incomplete]

theorem next_of_some {decoder : Decoder} {event : Event} {rest : Bytes}
    (decoded : decode decoder.pending = some (event, rest)) :
    decoder.next = (some event, ⟨rest⟩) := by
  rw [next, decoded]

/-- A decoder without an event has bytes that determine none, and keeps them. -/
theorem next_eq_none_iff {decoder after : Decoder} :
    decoder.next = (none, after) ↔
      decode decoder.pending = none ∧ after = decoder := by
  constructor
  · intro returned
    cases decoded : decode decoder.pending with
    | none =>
      rw [next_of_none decoded] at returned
      cases returned
      exact ⟨rfl, rfl⟩
    | some found =>
      rw [next_of_some decoded] at returned
      cases returned
  · rintro ⟨incomplete, rfl⟩
    exact next_of_none incomplete

/-- A decoder with an event has bytes that start with it. -/
theorem next_eq_some_iff {decoder after : Decoder} {event : Event} :
    decoder.next = (some event, after) ↔
      decode decoder.pending = some (event, after.pending) := by
  constructor
  · intro returned
    cases decoded : decode decoder.pending with
    | none =>
      rw [next_of_none decoded] at returned
      cases returned
    | some found =>
      rw [next_of_some decoded] at returned
      cases returned
      rfl
  · intro decoded
    exact next_of_some decoded

/-- Bytes given up at last are the escape key if they are its byte alone. -/
theorem givenUp?_of_ne_nil {pending : Bytes}
    (nonempty : pending ≠ []) :
    givenUp? pending =
      some
        (if pending = [escapeByte] then
          .plain .escape
        else
          .unknown) := by
  match pending with
  | [] => contradiction
  | [byte] => simp [givenUp?]
  | first :: second :: later => simp [givenUp?]

theorem flush_of_none {decoder : Decoder}
    (incomplete : decode decoder.pending = none) :
    decoder.flush = (givenUp? decoder.pending, ⟨[]⟩) := by
  rw [flush, incomplete]

/-- Nothing is given up where nothing is pending. -/
theorem flush_of_empty {decoder : Decoder}
    (empty : decoder.pending = []) :
    decoder.flush = (none, decoder) := by
  rcases decoder with ⟨pending⟩
  cases empty
  rfl

/-- Polling a decoder until it has no event is draining its pending bytes. -/
theorem drains_iff
    (decoder after : Decoder)
    (events : List Event) :
    Drains decoder events after ↔ decoder.takeAll = (events, after) := by
  constructor
  · intro drains
    induction drains with
    | done returned =>
      rcases next_eq_none_iff.mp returned with ⟨incomplete, rfl⟩
      rw [takeAll, drain_of_none incomplete]
    | event returned later ih =>
      rw [takeAll, drain_of_some (next_eq_some_iff.mp returned)]
      cases ih
      rfl
  · intro drained
    cases decoder with
    | mk pending =>
      rw [takeAll] at drained
      cases drained
      fun_induction drain pending with
      | case1 pending incomplete => exact .done (next_of_none incomplete)
      | case2 pending event rest decoded shorter later ih =>
        exact .event (next_of_some decoded) ih

theorem follow_append
    (decoder : Decoder)
    (before after : List DecoderUse) :
    decoder.follow (before ++ after) =
      ((decoder.follow before).1 ++
          ((decoder.follow before).2.follow after).1,
        ((decoder.follow before).2.follow after).2) := by
  induction before generalizing decoder with
  | nil => rfl
  | cons first later ih =>
    rw [List.cons_append, follow, ih]
    simp only [follow, List.append_assoc]

/-- What is left to be drained after some uses is what they did not return. -/
theorem drain_follow
    (decoder : Decoder)
    (uses : List DecoderUse) :
    drain (decoder.pending ++ fed uses) =
      ((decoder.follow uses).1 ++
          (drain (decoder.follow uses).2.pending).1,
        (drain (decoder.follow uses).2.pending).2) := by
  induction uses generalizing decoder with
  | nil => simp [fed, follow]
  | cons first later ih =>
    cases first with
    | feed bytes =>
      rw [fed, ← List.append_assoc]
      exact ih (decoder.feed bytes)
    | poll =>
      cases decoded : decode decoder.pending with
      | none =>
        simp only [fed, follow, use, next_of_none decoded]
        exact ih decoder
      | some found =>
        rw [fed, drain_of_some (decode_append (fed later) decoded),
          ih ⟨found.2⟩]
        simp only [follow, use, next_of_some decoded]
        rfl

/-- What the whole input is drained to is completed after any uses. -/
theorem exists_drains
    {uses : List DecoderUse}
    {events : List Event}
    {rest : Bytes}
    (whole : drain (fed uses) = (events, rest)) :
    ∃ later : List Event,
      (∀ (found : List Event) (after : Decoder),
        Drains (follow {} uses).2 found after ↔
          found = later ∧ after = ⟨rest⟩) ∧
        (follow {} uses).1 ++ later = events := by
  have parts := drain_follow {} uses
  have all : drain (({} : Decoder).pending ++ fed uses) = (events, rest) :=
    whole
  rw [all, Prod.ext_iff] at parts
  rcases parts with ⟨completed, left⟩
  refine ⟨(follow {} uses).2.takeAll.1, ?_, completed.symm⟩
  intro found after
  rw [drains_iff, takeAll, ← left, Prod.ext_iff]
  exact and_congr eq_comm eq_comm

/--
However the input is cut and the decoder polled in between, draining it at the
end completes the events of the whole input and leaves the same bytes pending.
At every moment before, a first part of these events has been returned.
-/
theorem follow_drains (uses : List DecoderUse) :
    ∃ (later : List Event) (rest : Decoder),
      (∀ (events : List Event) (after : Decoder),
        Drains (follow {} uses).2 events after ↔
          events = later ∧ after = rest) ∧
      (∀ (events : List Event) (after : Decoder),
        Drains (feed {} (fed uses)) events after ↔
          events = (follow {} uses).1 ++ later ∧ after = rest) ∧
      ∀ count : Nat,
        (follow {} (uses.take count)).1 <+:
          (follow {} uses).1 ++ later := by
  refine
    ⟨(follow {} uses).2.takeAll.1, (follow {} uses).2.takeAll.2,
      ?_, ?_, ?_⟩
  · intro events after
    rw [drains_iff, Prod.ext_iff]
    exact and_congr eq_comm eq_comm
  · intro events after
    have whole := drain_follow {} uses
    rw [drains_iff, takeAll, pending_feed, whole, Prod.ext_iff]
    exact and_congr eq_comm eq_comm
  · intro count
    have parts := follow_append {} (uses.take count) (uses.drop count)
    rw [List.take_append_drop] at parts
    rw [parts, List.append_assoc]
    exact List.prefix_append _ _

end Decoder

end TerminalEditor
