import TerminalEditor.Buffer.Reading
import TerminalEditor.Proofs.Buffer.Integrity

/-!
# A text read from both ends

A reading takes bytes at either end of what is left, in any order, and goes over
from one segment to the other when the first is used up.  What was taken at the
start, what is left, and what was taken at the end, the last byte first, are the
whole text at any time.  So every byte is read from a place of its own outside the
gap, and once nothing is left at one end nothing is left at the other.
-/

namespace TerminalEditor

/-- The end of a reading at which a byte is taken. -/
inductive ReadingEnd
  | start
  | stop
  deriving DecidableEq, Repr

namespace Reading

/-- Takes the byte at one end. -/
def take (reading : Reading) : ReadingEnd → Option UInt8 × Reading
  | .start => reading.next
  | .stop => reading.nextBack

/-- The answers to calls at these ends, and the reading after them. -/
def takeEach
    (reading : Reading) :
    List ReadingEnd → List (ReadingEnd × Option UInt8) × Reading
  | [] => ([], reading)
  | side :: later =>
    let taken := reading.take side
    let others := taken.2.takeEach later
    ((side, taken.1) :: others.1, others.2)

/-- The bytes that were taken at one end. -/
def takenAt
    (side : ReadingEnd)
    (answers : List (ReadingEnd × Option UInt8)) :
    Bytes :=
  answers.filterMap fun answer =>
    if answer.1 = side then answer.2 else none

/-- Taking bytes at one end until there is none takes these. -/
inductive Collects (side : ReadingEnd) : Reading → Bytes → Prop
  | done {reading after : Reading}
    (answered : reading.take side = (none, after)) :
    Collects side reading []
  | byte {reading after : Reading} {byte : UInt8} {bytes : Bytes}
    (answered : reading.take side = (some byte, after))
    (later : Collects side after bytes) :
    Collects side reading (byte :: bytes)

/-- The bytes still to be read, in the order in which one end has them. -/
def seenFrom (reading : Reading) : ReadingEnd → Bytes
  | .start => reading.remaining
  | .stop => reading.remaining.reverse

variable
    {reading : Reading}
    {side : ReadingEnd}
    {bytes : Bytes}

/-! ## One call -/

theorem take_fst
    (reading : Reading)
    (side : ReadingEnd) :
    (reading.take side).1 = (reading.seenFrom side).head? := by
  cases side with
  | start => exact reading.next_fst
  | stop =>
    rw [seenFrom, List.head?_reverse]
    exact reading.nextBack_fst

theorem seenFrom_take_snd
    (reading : Reading)
    (side : ReadingEnd) :
    (reading.take side).2.seenFrom side =
      (reading.seenFrom side).tail := by
  cases side with
  | start => exact reading.remaining_next_snd
  | stop =>
    rw [seenFrom, seenFrom, List.tail_reverse]
    exact congrArg List.reverse reading.remaining_nextBack_snd

theorem seenFrom_eq_nil_iff :
    reading.seenFrom side = [] ↔ reading.remaining = [] := by
  cases side with
  | start => rfl
  | stop => exact List.reverse_eq_nil_iff

/-- There is no byte at an end exactly if nothing is left. -/
theorem take_fst_eq_none_iff :
    (reading.take side).1 = none ↔ reading.remaining = [] := by
  rw [take_fst, List.head?_eq_none_iff, seenFrom_eq_nil_iff]

/-- The bytes at an end are the one that is taken and those left after it. -/
theorem seenFrom_eq
    (reading : Reading)
    (side : ReadingEnd) :
    reading.seenFrom side =
      (reading.take side).1.toList ++
        (reading.take side).2.seenFrom side := by
  rw [take_fst, seenFrom_take_snd]
  cases reading.seenFrom side <;> rfl

/-- Where nothing is left, a call leaves it so. -/
theorem remaining_take_of_nil
    (nothing : reading.remaining = [])
    (side : ReadingEnd) :
    (reading.take side).2.remaining = [] := by
  apply seenFrom_eq_nil_iff.mp
  rw [seenFrom_take_snd, seenFrom_eq_nil_iff.mpr nothing]
  rfl

/-! ## Calls at either end -/

theorem takenAt_cons
    (side : ReadingEnd)
    (answer : ReadingEnd × Option UInt8)
    (later : List (ReadingEnd × Option UInt8)) :
    takenAt side (answer :: later) =
      (if answer.1 = side then answer.2 else none).toList ++
        takenAt side later := by
  rw [takenAt, List.filterMap_cons]
  cases if answer.1 = side then answer.2 else none <;> rfl

/-- What was taken at both ends encloses what is left. -/
theorem taken_append_remaining
    (reading : Reading)
    (sides : List ReadingEnd) :
    takenAt .start (reading.takeEach sides).1 ++
          (reading.takeEach sides).2.remaining ++
        (takenAt .stop (reading.takeEach sides).1).reverse =
      reading.remaining := by
  induction sides generalizing reading with
  | nil => simp [takeEach, takenAt]
  | cons side later ih =>
    have rest := ih (reading.take side).2
    have step := reading.seenFrom_eq side
    rw [takeEach, takenAt_cons, takenAt_cons]
    cases side with
    | start =>
      rw [seenFrom, seenFrom, ← rest] at step
      rw [if_pos rfl, if_neg nofun, step]
      simp only [Option.toList_none, List.nil_append, List.append_assoc]
    | stop =>
      have whole := congrArg List.reverse step
      rw [seenFrom, seenFrom, List.reverse_reverse, List.reverse_append,
        List.reverse_reverse, ← rest] at whole
      rw [if_pos rfl, if_neg nofun, whole]
      simp only [Option.toList_none, List.nil_append, List.reverse_append,
        List.append_assoc]

/-- Taking bytes at one end until there is none takes all that are left. -/
theorem collects_iff :
    Collects side reading bytes ↔ bytes = reading.seenFrom side := by
  constructor
  · intro collects
    induction collects with
    | @done reading after answered =>
      have none := reading.take_fst side
      rw [answered] at none
      exact (List.head?_eq_none_iff.mp none.symm).symm
    | @byte reading after byte bytes answered later ih =>
      rw [reading.seenFrom_eq side, answered, ih]
      rfl
  · rintro rfl
    induction seen : reading.seenFrom side generalizing reading with
    | nil =>
      have answer := reading.take_fst side
      rw [seen] at answer
      exact .done (Prod.ext answer rfl)
    | cons byte others ih =>
      have answer := reading.take_fst side
      have rest := reading.seenFrom_take_snd side
      rw [seen] at answer rest
      exact .byte (Prod.ext answer rfl) (ih rest)

/-- Once nothing is left, no call at either end has a byte any more. -/
theorem answers_of_nil
    (nothing : reading.remaining = [])
    (sides : List ReadingEnd) :
    ∀ answer ∈ (reading.takeEach sides).1, answer.2 = none := by
  induction sides generalizing reading with
  | nil => exact List.forall_mem_nil _
  | cons side later ih =>
    intro answer member
    rcases List.mem_cons.mp member with rfl | among
    · exact take_fst_eq_none_iff.mpr nothing
    · exact ih (remaining_take_of_nil nothing side) answer among

end Reading

namespace GapBuffer

variable {buffer : GapBuffer}

/-! ## Places of the text in the storage -/

/-- The places in the storage that are not in the gap. -/
def textPlaces (buffer : GapBuffer) : List Nat :=
  List.range buffer.gap.start ++
    List.range' buffer.gap.stop (buffer.capacity - buffer.gap.stop)

theorem not_mem_gap_of_textPlace {place : Nat}
    (member : place ∈ buffer.textPlaces) :
    ¬ (buffer.gap.start ≤ place ∧ place < buffer.gap.stop) := by
  rcases List.mem_append.mp member with before | behind
  · have below := List.mem_range.mp before
    omega
  · have above := (List.mem_range'_1.mp behind).1
    omega

theorem nodup_textPlaces (buffer : GapBuffer) :
    buffer.textPlaces.Nodup := by
  have ordered := buffer.gap.ordered
  apply List.nodup_append.mpr
  refine ⟨List.nodup_range, List.nodup_range', ?_⟩
  rintro place before _ behind rfl
  have below := List.mem_range.mp before
  have above := (List.mem_range'_1.mp behind).1
  omega

/-- Places that follow each other hold the items that do. -/
theorem map_range'_getElem? {α : Type}
    (items : List α)
    {first count : Nat}
    (inside : first + count ≤ items.length) :
    (List.range' first count).map (items[·]?) =
      ((items.drop first).take count).map some := by
  apply List.ext_getElem?
  intro index
  by_cases within : index < count
  · have present : first + index < items.length := by omega
    simp [List.getElem?_drop, within, present]
  · have beyond : count ≤ index := Nat.le_of_not_lt within
    have stored :
        (((items.drop first).take count).map some).length ≤ index := by
      rw [List.length_map]
      exact Nat.le_trans (List.length_take_le _ _) beyond
    rw [List.getElem?_eq_none stored, List.getElem?_eq_none]
    rw [List.length_map, List.length_range']
    exact beyond

/-- The bytes of the text are those at its places, in order. -/
theorem map_textPlaces
    (inOrder : buffer.InOrder) :
    buffer.textPlaces.map (buffer.storage[·]?) =
      buffer.bytes.map some := by
  have stopped : buffer.gap.stop ≤ buffer.storage.toList.length :=
    inOrder.stop_le_size
  have started : 0 + buffer.gap.start ≤ buffer.storage.toList.length := by
    have ordered := buffer.gap.ordered
    omega
  have ended :
      buffer.gap.stop + (buffer.capacity - buffer.gap.stop) ≤
        buffer.storage.toList.length := by
    rw [capacity, ← Array.length_toList]
    omega
  have counted :
      (buffer.storage.toList.drop buffer.gap.stop).length =
        buffer.capacity - buffer.gap.stop := by
    rw [List.length_drop, Array.length_toList, capacity]
  have everything := List.take_of_length_le (Nat.le_of_eq counted)
  have before := map_range'_getElem? _ started
  have behind := map_range'_getElem? _ ended
  rw [List.drop_zero] at before
  rw [everything] at behind
  simp only [Array.getElem?_toList] at before behind
  rw [textPlaces, List.map_append, List.range_eq_range', before, behind,
    bytes, front, back, List.map_append]

/-- The parts of a text that were taken at its ends have places of their own. -/
theorem exists_places
    (inOrder : buffer.InOrder)
    {early rest late : Bytes}
    (whole : early ++ rest ++ late.reverse = buffer.bytes) :
    ∃ startPlaces stopPlaces : List Nat,
      startPlaces.map (buffer.storage[·]?) = early.map some ∧
        stopPlaces.map (buffer.storage[·]?) = late.map some ∧
        (startPlaces ++ stopPlaces).Nodup ∧
        ∀ place ∈ startPlaces ++ stopPlaces,
          ¬ (buffer.gap.start ≤ place ∧ place < buffer.gap.stop) := by
  have places := map_textPlaces inOrder
  have distinct := buffer.nodup_textPlaces
  rw [← whole, List.map_append, List.map_append] at places
  rcases List.map_eq_append_iff.mp places with
    ⟨others, stopPlaces, split, othersEq, stopEq⟩
  rcases List.map_eq_append_iff.mp othersEq with
    ⟨startPlaces, middle, rfl, startEq, -⟩
  have part :
      (startPlaces ++ stopPlaces).Sublist buffer.textPlaces := by
    rw [split]
    exact (List.sublist_append_left startPlaces middle).append_right _
  have backwards :
      (startPlaces ++ stopPlaces.reverse).Perm
        (startPlaces ++ stopPlaces) :=
    stopPlaces.reverse_perm.append_left startPlaces
  refine ⟨startPlaces, stopPlaces.reverse, startEq, ?_, ?_, ?_⟩
  · rw [List.map_reverse, stopEq, ← List.map_reverse, List.reverse_reverse]
  · exact backwards.nodup_iff.mpr (distinct.sublist part)
  · intro place member
    exact
      not_mem_gap_of_textPlace
        (part.subset (backwards.mem_iff.mp member))

end GapBuffer

/--
At any time while a text is read from both ends, what was taken at its start, what
is left, and what was taken at its end, the last byte first, are the whole text.
What is left is what either end goes on to take, in opposite orders; its length is
known, no end has a byte exactly if it is empty, and then none ever has one again.
The bytes were taken from places outside the gap, and no two from the same place.
-/
theorem text_read_from_both_ends
    {capacity : Nat}
    {uses : List TextUse}
    {empty buffer : GapBuffer}
    (created : GapBuffer.withCapacity capacity = .ok empty)
    (used : empty.useAll uses = .ok buffer)
    (sides : List ReadingEnd) :
    let answers := (buffer.reading.takeEach sides).1
    let after := (buffer.reading.takeEach sides).2
    let taken := (Reading.takenAt · answers)
    ∃ rest : Bytes,
      (∀ bytes : Bytes, after.Collects .start bytes ↔ bytes = rest) ∧
        (∀ bytes : Bytes, after.Collects .stop bytes ↔ bytes = rest.reverse) ∧
        taken .start ++ rest ++ (taken .stop).reverse =
          buffer.front ++ buffer.back ∧
        after.length = rest.length ∧
        (∀ side : ReadingEnd, (after.take side).1 = none ↔ rest = []) ∧
        (rest = [] → ∀ later : List ReadingEnd,
          ∀ answer ∈ (after.takeEach later).1, answer.2 = none) ∧
        ∃ startPlaces stopPlaces : List Nat,
          startPlaces.map (buffer.storage[·]?) =
              (taken .start).map some ∧
            stopPlaces.map (buffer.storage[·]?) =
              (taken .stop).map some ∧
            (startPlaces ++ stopPlaces).Nodup ∧
            ∀ place ∈ startPlaces ++ stopPlaces,
              ¬ (buffer.gap.start ≤ place ∧ place < buffer.gap.stop) := by
  intro answers after taken
  rcases GapBuffer.holds_of_withCapacity created with ⟨-, emptyHolds⟩
  rcases emptyHolds.exists_of_useAll uses used with ⟨document, holds⟩
  have whole :
      taken .start ++ after.remaining ++ (taken .stop).reverse =
        buffer.bytes :=
    buffer.reading.taken_append_remaining sides
  refine
    ⟨after.remaining, ?_, ?_, whole, after.length_remaining.symm, ?_, ?_,
      GapBuffer.exists_places holds.inOrder whole⟩
  · exact fun _ => Reading.collects_iff
  · exact fun _ => Reading.collects_iff
  · exact fun _ => Reading.take_fst_eq_none_iff
  · exact Reading.answers_of_nil

/--
Three bytes around a gap: the calls at the end take one from behind the gap and one
from before it, the call at the start one more, and then both ends have met.
-/
theorem text_read_until_ends_meet :
    let uses : List TextUse := [.insert [97, 98, 99], .shift (-1)]
    let buffer : GapBuffer :=
      ⟨#[97, 98, 0, 99], { start := 2, stop := 3 }⟩
    let sides : List ReadingEnd := [.stop, .start, .stop, .start]
    let after := (buffer.reading.takeEach sides).2
    (do (← GapBuffer.withCapacity 4).useAll uses) = .ok buffer ∧
      (buffer.reading.takeEach sides).1 =
        [(.stop, some 99), (.start, some 97), (.stop, some 98),
          (.start, none)] ∧
      (∀ bytes : Bytes, after.Collects .start bytes ↔ bytes = []) ∧
      (∀ later : List ReadingEnd,
        ∀ answer ∈ (after.takeEach later).1, answer.2 = none) ∧
      ∃ startPlaces stopPlaces : List Nat,
        startPlaces.map (buffer.storage[·]?) = [some 97] ∧
          stopPlaces.map (buffer.storage[·]?) = [some 99, some 98] ∧
          (startPlaces ++ stopPlaces).Nodup ∧
          ∀ place ∈ startPlaces ++ stopPlaces,
            ¬ (2 ≤ place ∧ place < 3) := by
  intro uses buffer sides after
  have reached :
      (do (← GapBuffer.withCapacity 4).useAll uses) = .ok buffer := by
    cbv
  rcases Checked.exists_of_bind_eq_ok reached with
    ⟨empty, created, used⟩
  rcases text_read_from_both_ends created used sides with
    ⟨rest, collects, -, -, -, ended, exhausted, places⟩
  have nothing : rest = [] := (ended .start).mp rfl
  rw [nothing] at collects
  exact ⟨reached, rfl, collects, exhausted nothing, places⟩

end TerminalEditor
