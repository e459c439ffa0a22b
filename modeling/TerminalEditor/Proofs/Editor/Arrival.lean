import TerminalEditor.Proofs.Editor.Showing
import TerminalEditor.Proofs.Key.Fragments

/-!
# Sessions and the bytes they are typed with

A session depends on the bytes that are typed and not on how they arrive.  What
it handles, its text, its view and its last frame are what the view of an empty
text gives for the events of all bytes at once, up to the first one that quits.
-/

namespace TerminalEditor

/-- The events up to the first one that quits. -/
def untilQuit : List Event → List Event
  | [] => []
  | event :: later =>
    if event = .quit then [event] else event :: untilQuit later

theorem untilQuit_cons
    (event : Event)
    (later : List Event) :
    untilQuit (event :: later) =
      event :: if event = .quit then [] else untilQuit later := by
  rw [untilQuit]
  split <;> rfl

theorem length_untilQuit_le (events : List Event) :
    (untilQuit events).length ≤ events.length := by
  induction events with
  | nil => exact Nat.le_refl 0
  | cons event later ih =>
    rw [untilQuit_cons, List.length_cons, List.length_cons]
    split
    · exact Nat.succ_le_succ (Nat.zero_le _)
    · exact Nat.succ_le_succ ih

/-! ## All events -/

namespace Loop

variable
    {loop : Loop}
    {view : View}

/-- What a loop that shows a view comes to by some events. -/
def expected
    (loop : Loop)
    (view : View)
    (events : List Event) :
    Checked Outcome :=
  let events := if loop.session.isDone then [] else untilQuit events
  let occupancy := loop.session.editor.buffer.occupancy
  let run := view.handleAll (textRows loop.session.size) events
  if (occupancy.insertAll? (events.map (·.inserted.length))).isSome then
    .ok
      (run.2.outcome loop.session.size (loop.handled ++ run.1)
        (loop.session.isDone || decide (.quit ∈ events)))
  else
    .error .capacityOverflow

/-- Without events, what is expected is what is seen. -/
theorem Shows.expected_nil
    (shows : loop.Shows view) :
    loop.expected view [] = .ok loop.outcome := by
  have none :
      (if loop.session.isDone then [] else untilQuit []) = [] :=
    ite_self _
  simp only [expected, none, View.handleAll, List.append_nil]
  rw [shows.outcome_eq]
  simp [Occupancy.insertAll?]

/-- Once a loop is done, nothing more is expected. -/
theorem expected_of_done
    (isDone : loop.session.isDone = true)
    (events : List Event) :
    loop.expected view events = loop.expected view [] := by
  simp only [expected, if_pos isDone]

/-- Until a loop is done, the next event is expected. -/
theorem expected_cons
    (going : loop.session.isDone = false)
    (event : Event)
    (later : List Event) :
    loop.expected view (event :: later) =
      let rest := if event = .quit then [] else untilQuit later
      let next := view.handle event (textRows loop.session.size)
      let run := next.handleAll (textRows loop.session.size) rest
      if ((loop.session.editor.buffer.occupancy.insert?
            event.inserted.length).bind
          (·.insertAll? (rest.map (·.inserted.length)))).isSome then
        .ok
          (run.2.outcome loop.session.size
            (loop.handled ++ next.handled event :: run.1)
            (decide (event = .quit) || decide (.quit ∈ rest)))
      else
        .error .capacityOverflow := by
  have quits :
      ∀ rest : List Event,
        decide (Event.quit ∈ event :: rest) =
          (decide (event = .quit) || decide (.quit ∈ rest)) := by
    intro rest
    rw [← Bool.decide_or, decide_eq_decide, List.mem_cons, eq_comm]
  simp only [expected, going, Bool.false_eq_true, if_false, untilQuit_cons,
    List.map_cons, Occupancy.insertAll?, View.handleAll, quits,
    Bool.false_or]
  rfl

/-- What is expected is told by one event after the other. -/
theorem Shows.handle_bind
    (shows : loop.Shows view)
    (event : Event)
    (later : List Event)
    {finish : Loop → Checked Outcome}
    (finishes :
      ∀ (next : Loop) (nextView : View),
        next.Shows nextView →
        next.session.decoder = loop.session.decoder →
          finish next = next.expected nextView later) :
    (loop.handle event >>= finish) =
      loop.expected view (event :: later) := by
  cases going : loop.session.isDone with
  | true =>
    rw [handle_of_done going, Checked.ok_bind,
      finishes loop view shows rfl, expected_of_done going later,
      expected_of_done going (event :: later)]
  | false =>
    rw [expected_cons going]
    cases room :
        loop.session.editor.buffer.occupancy.insert?
          event.inserted.length with
    | none =>
      rw [shows.handle_of_crowded going room]
      rfl
    | some admitted =>
      rcases shows.handle_of_room going room with
        ⟨next, handles, rfl, has, nextShows, handledEq⟩
      rw [handles, Checked.ok_bind,
        finishes next _ nextShows has.decoder_eq, expected]
      simp only [has.isDone_eq, decide_eq_true_eq, has.size_eq,
        handledEq, Option.bind_some, List.append_assoc,
        List.singleton_append]

/-- Handling events leads to what is expected by them. -/
theorem Shows.handleAll_eq
    (shows : loop.Shows view)
    (events : List Event) :
    (do return (← loop.handleAll events).outcome) =
      loop.expected view events := by
  induction events generalizing loop view with
  | nil =>
    rw [shows.expected_nil]
    rfl
  | cons event later ih =>
    have step :=
      shows.handle_bind event later fun next nextView nextShows _ =>
        ih nextShows
    rw [← step, handleAll, bind_assoc]

end Loop

/-! ## All bytes -/

/-- One use of a loop. -/
inductive LoopUse
  | arrive (bytes : Bytes)
  | poll
  | redraw
  deriving DecidableEq, Repr

namespace Loop

/-- The loop after one use. -/
def use (loop : Loop) : LoopUse → Checked Loop
  | .arrive bytes => return loop.arrive bytes
  | .poll => loop.poll
  | .redraw => return loop.draw

/-- The loop after some uses, one after the other. -/
def useAll (loop : Loop) : List LoopUse → Checked Loop
  | [] => return loop
  | first :: later => do (← loop.use first).useAll later

/-- The bytes that arrive in some uses, in order. -/
def arrived : List LoopUse → Bytes
  | [] => []
  | .arrive bytes :: later => bytes ++ arrived later
  | .poll :: later => arrived later
  | .redraw :: later => arrived later

/-- A loop that is used and then settled. -/
def outcomeOf
    (loop : Loop)
    (uses : List LoopUse) :
    Checked Outcome := do
  let used ← loop.useAll uses
  return (← used.settle).outcome

theorem bind_useAll_nil (loop : Checked Loop) :
    (loop >>= (·.useAll [])) = loop :=
  bind_pure loop

theorem useAll_singleton
    (loop : Loop)
    (use : LoopUse) :
    loop.useAll [use] = loop.use use :=
  bind_pure (loop.use use)

theorem useAll_append
    (loop : Loop)
    (uses later : List LoopUse) :
    loop.useAll (uses ++ later) = loop.useAll uses >>= (·.useAll later) := by
  induction uses generalizing loop with
  | nil => rfl
  | cons first others ih =>
    rw [List.cons_append, useAll, useAll, bind_assoc]
    exact bind_congr ih

theorem arrived_append (uses later : List LoopUse) :
    arrived (uses ++ later) = arrived uses ++ arrived later := by
  induction uses with
  | nil => rfl
  | cons first others ih =>
    cases first with
    | arrive bytes =>
      rw [List.cons_append, arrived, arrived, ih, List.append_assoc]
    | poll => exact ih
    | redraw => exact ih

variable
    {loop : Loop}
    {view : View}

/-- A loop without an event to take is settled. -/
theorem settle_of_none
    (settled : loop.session.decoder.next = (none, loop.session.decoder)) :
    loop.settle = .ok loop := by
  have nothing := (Decoder.drains_iff _ _ _).mp (.done settled)
  rw [settle, nothing]
  rfl

/-- A loop that is done handles no events. -/
theorem handleAll_of_done
    (isDone : loop.session.isDone = true)
    (events : List Event) :
    loop.handleAll events = .ok loop := by
  induction events with
  | nil => rfl
  | cons event later ih =>
    rw [handleAll, handle_of_done isDone, Checked.ok_bind, ih]

/-- A loop that is done only takes events. -/
theorem settle_of_done
    (isDone : loop.session.isDone = true) :
    loop.settle =
      .ok
        { loop with
          session :=
            { loop.session with
              decoder := loop.session.decoder.takeAll.2 } } := by
  let taken : Loop :=
    { loop with
      session :=
        { loop.session with
          decoder := loop.session.decoder.takeAll.2 } }
  have still : taken.session.isDone = true := isDone
  exact handleAll_of_done still _

/-- A loop that is settled comes to what its pending bytes determine. -/
theorem Shows.settle_eq
    (shows : loop.Shows view) :
    (do return (← loop.settle).outcome) =
      loop.expected view
        (Decoder.drain loop.session.decoder.pending).1 :=
  (shows.with_decoder _).handleAll_eq _

/-- A loop comes to what all bytes determine, however they arrive. -/
theorem Shows.outcomeOf_eq
    (shows : loop.Shows view)
    (uses : List LoopUse) :
    loop.outcomeOf uses =
      loop.expected view
        (Decoder.drain
          (loop.session.decoder.pending ++ arrived uses)).1 := by
  -- What is pending and what is still to arrive are one input: a poll takes
  -- its first event off, and the other uses leave it as it is.
  induction uses generalizing loop view with
  | nil =>
    rw [arrived, List.append_nil]
    exact shows.settle_eq
  | cons first later ih =>
    cases first with
    | arrive bytes =>
      rw [arrived, ← List.append_assoc]
      exact ih (shows.with_decoder (loop.session.decoder.feed bytes))
    | redraw =>
      have drawn : loop.outcomeOf (.redraw :: later) =
          loop.draw.outcomeOf later :=
        rfl
      rw [drawn, shows.draw_eq]
      exact ih shows
    | poll =>
      cases decoded : Decoder.decode loop.session.decoder.pending with
      | none =>
        have still :
            loop.outcomeOf (.poll :: later) = loop.outcomeOf later := by
          rw [outcomeOf, useAll, use, poll,
            Decoder.next_of_none decoded]
          rfl
        rw [still]
        exact ih shows
      | some found =>
        rcases found with ⟨event, rest⟩
        let taken : Loop :=
          { loop with session := { loop.session with decoder := ⟨rest⟩ } }
        have same : taken.Shows view := shows.with_decoder ⟨rest⟩
        have polled :
            loop.outcomeOf (.poll :: later) =
              taken.handle event >>= (·.outcomeOf later) := by
          rw [outcomeOf, useAll, use, poll,
            Decoder.next_of_some decoded, bind_assoc]
          rfl
        rw [polled, arrived,
          Decoder.drain_of_some (Decoder.decode_append _ decoded)]
        apply same.handle_bind
        intro next nextView nextShows decoderEq
        rw [ih nextShows, decoderEq]

/-- A new loop shows the view of an empty text. -/
theorem shows_start
    {capacity : Nat}
    (small : capacity < Capacity.storageLimit)
    (size : ScreenVector) :
    ∃ loop : Loop,
      start capacity size = .ok loop ∧
        loop.Shows .empty ∧
        loop.session.editor.buffer.occupancy = ⟨capacity, 0⟩ ∧
        loop.session.size = size ∧
        loop.session.isDone = false ∧
        loop.session.decoder = {} ∧
        loop.handled = [] := by
  rcases GapBuffer.holds_withCapacity small with
    ⟨buffer, created, occupancyEq, holds⟩
  let session : Session := { editor := { buffer }, size }
  have starts :
      start capacity size = .ok (draw { session := session.scrolled }) := by
    rw [start, Session.start, Editor.withCapacity, created]
    rfl
  have views : session.scrolled.Views .empty := by
    have edits : session.editor.Edits ⟨[], 0⟩ := ⟨holds, nofun⟩
    have followed := Session.views_scrolled edits
    have top : (⟨[], 0⟩ : Document).position.row = 0 := rfl
    rw [top, Editor.follow_zero] at followed
    exact followed
  exact ⟨_, starts, shows_draw views, occupancyEq, rfl, rfl, rfl, rfl⟩

/-- Without storage for the buffer, no loop is started. -/
theorem start_of_large
    {capacity : Nat}
    (large : ¬ capacity < Capacity.storageLimit)
    (size : ScreenVector) :
    start capacity size = .error .capacityOverflow := by
  have refused :
      GapBuffer.withCapacity capacity = .error .capacityOverflow :=
    if_neg large
  rw [start, Session.start, Editor.withCapacity, refused]
  rfl

/-- A new loop comes to what the view of an empty text comes to. -/
theorem outcomeOf_start
    {capacity : Nat}
    (small : capacity < Capacity.storageLimit)
    (size : ScreenVector)
    (uses : List LoopUse) :
    let events := untilQuit (Decoder.drain (arrived uses)).1
    let run := View.empty.handleAll (textRows size) events
    (do (← start capacity size).outcomeOf uses) =
      if (Occupancy.insertAll? ⟨capacity, 0⟩
          (events.map (·.inserted.length))).isSome then
        .ok (run.2.outcome size run.1 (decide (.quit ∈ events)))
      else
        .error .capacityOverflow := by
  rcases shows_start small size with
    ⟨loop, starts, shows, occupancyEq, sizeEq, going, decoderEq, handledEq⟩
  rw [starts, Checked.ok_bind, shows.outcomeOf_eq, expected]
  simp only [going, decoderEq, occupancyEq, sizeEq, handledEq]
  rfl

/-- What a new loop comes to is told by the bytes that arrive. -/
theorem outcomeOf_start_congr
    {uses others : List LoopUse}
    (same : arrived uses = arrived others)
    (capacity : Nat)
    (size : ScreenVector) :
    (do (← start capacity size).outcomeOf uses) =
      (do (← start capacity size).outcomeOf others) := by
  by_cases small : capacity < Capacity.storageLimit
  · rw [outcomeOf_start small, outcomeOf_start small, same]
  · rw [start_of_large small]
    rfl

end Loop

/-- Few bytes have room in a buffer, whatever capacity it was made with. -/
theorem isSome_insertAll?_untilQuit
    {bytes : Bytes}
    (short : bytes.length ≤ Capacity.storageLimit / 4)
    (capacity : Nat) :
    (Occupancy.insertAll? ⟨capacity, 0⟩
      ((untilQuit (Decoder.drain bytes).1).map
        (·.inserted.length))).isSome := by
  let events := untilQuit (Decoder.drain bytes).1
  have few : events.length ≤ bytes.length :=
    Nat.le_trans (length_untilQuit_le _) (Decoder.length_drain_le _)
  have total :
      0 + (events.map Event.inserted).flatten.length ≤
        Capacity.storageLimit / 4 := by
    rw [Nat.zero_add]
    exact
      Nat.le_trans (Event.length_flatten_inserted_le events)
        (Nat.le_trans few short)
  have admitted :
      (Occupancy.insertAll? ⟨capacity, 0⟩
        ((events.map Event.inserted).map (·.length))).isSome :=
    Occupancy.isSome_insertAll? _ total
  rwa [List.map_map] at admitted

end TerminalEditor
