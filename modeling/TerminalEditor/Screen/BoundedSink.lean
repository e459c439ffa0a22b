import TerminalEditor.Screen.Output

/-!
# A sink with bounds

A bounded sink takes at most `limit` bytes in all and at most `chunk` bytes of
one offer, and its own flush may be set to fail.
-/

namespace TerminalEditor

/-- A sink with bounds on what it takes. -/
structure BoundedSink where
  received : Bytes := []
  limit : Option Nat := none
  chunk : Option Nat := none
  failsToFlush : Bool := false
  flushes : Nat := 0
  deriving Repr

namespace BoundedSink

/-- The number of bytes taken of an offer of `count`. -/
def taken
    (room chunk : Option Nat)
    (count : Nat) :
    Nat :=
  min count (min (room.getD count) (chunk.getD count))

/-- The answers to offers of `count` bytes and then of what was left over. -/
def answersFor
    (room chunk : Option Nat)
    (count : Nat) :
    List Acceptance :=
  if count = 0 then
    []
  else
    let accepted := taken room chunk count
    if accepted = 0 then
      [.takes 0]
    else
      .takes accepted ::
        answersFor (room.map (· - accepted)) chunk (count - accepted)
termination_by count

/-- The answers that the sink gives to `count` bytes now. -/
def answers
    (sink : BoundedSink)
    (count : Nat) :
    List Acceptance :=
  answersFor
    (sink.limit.map (· - sink.received.length)) sink.chunk count

/-- The failure of a sink that cannot be flushed. -/
def closed : Failure :=
  ⟨.brokenPipe, "sink closed"⟩

/-- The result of the sink's own flush. -/
def flushResult (sink : BoundedSink) : Except Failure Unit :=
  if sink.failsToFlush then .error closed else .ok ()

/-- Another limit, but never less than what the sink holds. -/
def withLimit
    (sink : BoundedSink)
    (limit : Nat) :
    BoundedSink :=
  { sink with limit := some (max limit sink.received.length) }

/-- Flushes an output into the sink. -/
def drain
    (sink : BoundedSink)
    (output : Output) :
    Except Failure Unit × Output × BoundedSink :=
  let flushed :=
    output.flush (sink.answers output.pending.length) sink.flushResult
  let flushes :=
    match flushed.result with
    | .ok () => sink.flushes + 1
    | .error _ => sink.flushes
  (flushed.result, flushed.output,
    { sink with
      received := sink.received ++ flushed.taken
      flushes })

end BoundedSink

end TerminalEditor
