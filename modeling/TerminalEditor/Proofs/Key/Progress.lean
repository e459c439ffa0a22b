import Mathlib.Data.List.Forall2
import TerminalEditor.Proofs.Key.Sent

/-!
# Every byte is accounted for

The decoder waits only for a sequence or a character that is begun and could
still be ended.  An event is decoded as soon as its last byte is there; only the
escape key needs one byte more, which tells it from the start of a sequence, and
which it leaves.  So each event that is returned stands for the next bytes that
were fed, one at least, and the other bytes are still pending.
-/

namespace TerminalEditor.Decoder

/-! ## Bytes that are begun and not ended -/

/-- A lead byte that announces so many bytes after it. -/
def Announces
    (lead : UInt8)
    (count : Nat) :
    Prop :=
  0xc0 ≤ lead ∧ lead ≤ 0xdf ∧ count = 1 ∨
    0xe0 ≤ lead ∧ lead ≤ 0xef ∧ count = 2 ∨
    0xf0 ≤ lead ∧ lead ≤ 0xf7 ∧ count = 3

/-- A sequence or a character that is begun and not ended. -/
inductive IsUnfinished : Bytes → Prop
  | escape : IsUnfinished [escapeByte]
  | application : IsUnfinished [escapeByte, 0x4f]
  | control (begun : Bytes)
      (noFinal : ∀ byte ∈ begun, ¬ (0x40 ≤ byte ∧ byte ≤ 0x7e)) :
      IsUnfinished (escapeByte :: 0x5b :: begun)
  | character (lead : UInt8) (count : Nat) (begun : Bytes)
      (announced : Announces lead count)
      (short : begun.length < count) :
      IsUnfinished (lead :: begun)

section Unfinished

variable
    {lead : UInt8}
    {count : Nat}
    {bytes rest : Bytes}

theorem IsUnfinished.ne_nil
    (unfinished : IsUnfinished bytes) :
    bytes ≠ [] := by
  cases unfinished <;> exact List.cons_ne_nil _ _

theorem announces_iff :
    Announces lead count ↔ followers? lead = some count ∧ count ≠ 0 := by
  rw [followers?_eq]
  simp only [Announces, UInt8.le_iff_toNat_le, UInt8.reduceToNat]
  grind

/-- A lead byte that announces others is no key by itself. -/
theorem Announces.isLead
    (announced : Announces lead count) :
    lead ≠ escapeByte ∧ controlByte? lead = none := by
  have large : 0xc0 ≤ lead.toNat := by
    rcases announced with ⟨low, -⟩ | ⟨low, -⟩ | ⟨low, -⟩
    all_goals
      have number := UInt8.le_iff_toNat_le.mp low
      exact Nat.le_trans (by decide) number
  constructor
  · rintro rfl
    exact absurd large (by decide)
  · apply controlByte?_of_shown <;> omega

theorem isFinal_eq_false_iff {byte : UInt8} :
    (!isFinal byte) = true ↔ ¬ (0x40 ≤ byte ∧ byte ≤ 0x7e) := by
  rw [Bool.not_eq_true', ← Bool.not_eq_true, isFinal, Bool.and_eq_true,
    decide_eq_true_eq, decide_eq_true_eq]

/-- A control sequence goes on until there is a final byte. -/
theorem decodeControl_eq_none_iff :
    decodeControl bytes = none ↔
      ∀ byte ∈ bytes, ¬ (0x40 ≤ byte ∧ byte ≤ 0x7e) := by
  have open_iff :
      decodeControl bytes = none ↔
        bytes.dropWhile (!isFinal ·) = [] := by
    rw [decodeControl]
    cases bytes.dropWhile (!isFinal ·) <;> simp
  rw [open_iff, List.dropWhile_eq_nil_iff]
  exact forall₂_congr fun byte _ => isFinal_eq_false_iff

/-- A character goes on until there are as many bytes as it announces. -/
theorem decodeCharacter_eq_none_iff :
    decodeCharacter lead rest = none ↔
      ∃ count : Nat, Announces lead count ∧ rest.length < count := by
  constructor
  · intro incomplete
    rw [decodeCharacter] at incomplete
    cases announced : followers? lead with
    | none =>
      rw [announced] at incomplete
      cases incomplete
    | some count =>
      simp only [announced] at incomplete
      split at incomplete
      · next short =>
        exact ⟨count, announces_iff.mpr ⟨announced, by omega⟩, short⟩
      · cases incomplete
  · rintro ⟨count, announced, short⟩
    rw [decodeCharacter, (announces_iff.mp announced).1]
    exact if_pos short

theorem decodeEscape_eq_none_iff :
    decodeEscape rest = none ↔
      rest = [] ∨ rest = [0x4f] ∨
        ∃ begun : Bytes,
          rest = 0x5b :: begun ∧
            ∀ byte ∈ begun, ¬ (0x40 ≤ byte ∧ byte ≤ 0x7e) := by
  match rest with
  | [] => simp [decodeEscape]
  | second :: later =>
    simp only [decodeEscape]
    split
    · next control =>
      subst control
      rw [decodeControl_eq_none_iff]
      simp
    · next noControl =>
      split
      · next application =>
        subst application
        cases later <;> simp
      · next other => simp [noControl, other]

/--
The decoder waits exactly if nothing is pending, or a sequence or a character
that is begun and not ended.
-/
theorem decode_eq_none_iff :
    decode bytes = none ↔ bytes = [] ∨ IsUnfinished bytes := by
  constructor
  · intro incomplete
    cases bytes with
    | nil => exact Or.inl rfl
    | cons first rest =>
      apply Or.inr
      rw [decode] at incomplete
      split at incomplete
      · next escape =>
        subst escape
        rcases decodeEscape_eq_none_iff.mp incomplete with
          rfl | rfl | ⟨begun, rfl, noFinal⟩
        · exact .escape
        · exact .application
        · exact .control begun noFinal
      · split at incomplete
        · cases incomplete
        · rcases decodeCharacter_eq_none_iff.mp incomplete with
            ⟨count, announced, short⟩
          exact .character first count rest announced short
  · rintro (rfl | unfinished)
    · rfl
    cases unfinished with
    | escape => rfl
    | application => rfl
    | control begun noFinal => exact decodeControl_eq_none_iff.mpr noFinal
    | character lead count begun announced short =>
      rcases announced.isLead with ⟨noEscape, noKey⟩
      rw [decode, if_neg noEscape, noKey]
      exact decodeCharacter_eq_none_iff.mpr ⟨count, announced, short⟩

/-- What is begun can be ended, and is then one event. -/
theorem IsUnfinished.exists_end
    (unfinished : IsUnfinished bytes) :
    ∃ (more : Bytes) (event : Event),
      decode (bytes ++ more) = some (event, []) := by
  cases unfinished with
  | escape => exact ⟨[0x4f, 0x41], .plain .up, rfl⟩
  | application => exact ⟨[0x41], .plain .up, rfl⟩
  | control begun noFinal =>
    have passed : ∀ byte ∈ begun, (!isFinal byte) = true :=
      fun byte member => isFinal_eq_false_iff.mpr (noFinal byte member)
    have ended : decodeControl (begun ++ [0x41]) =
        some (controlEvent begun 0x41, []) := by
      rw [decodeControl, List.dropWhile_append_of_pos passed,
        List.takeWhile_append_of_pos passed]
      simp [isFinal]
    exact ⟨[0x41], _, ended⟩
  | character lead count begun announced short =>
    rcases announced.isLead with ⟨noEscape, noKey⟩
    let more : Bytes := List.replicate (count - begun.length) 0
    have filled : (begun ++ more).length = count := by
      rw [List.length_append, List.length_replicate]
      omega
    have enough : followers? lead = some (begun ++ more).length := by
      rw [filled]
      exact (announces_iff.mp announced).1
    have ended := decodeCharacter_of_followers enough []
    rw [List.append_nil] at ended
    refine ⟨more, characterEvent (lead :: (begun ++ more)), ?_⟩
    rw [List.cons_append, decode, if_neg noEscape, noKey]
    exact ended

end Unfinished

/-! ## The bytes that determine an event -/

section Determining

variable
    {bytes part segment rest : Bytes}
    {event : Event}

/--
Bytes that determine an event: fewer of them determine none, and they do so by
themselves unless they are the escape byte.
-/
structure Determines
    (segment : Bytes)
    (event : Event) : Prop where
  filled : segment ≠ []
  shortest :
    ∀ part : Bytes, part <+: segment → part ≠ segment →
      (feed {} part).next.1 = none
  alone :
    if event = .plain .escape then
      segment = [escapeByte]
    else
      (feed {} segment).next = (some event, {})

/-- Bytes that are given up, and the event that stands for them. -/
structure IsGivenUp
    (segment : Bytes)
    (event : Event) : Prop where
  unfinished : IsUnfinished segment
  event_eq :
    event =
      if segment = [escapeByte] then .plain .escape else .unknown

/-- The first event is decoded no later than its last byte is there. -/
theorem decode_eq_none_of_part
    (decoded : decode (segment ++ rest) = some (event, rest))
    (within : part <+: segment)
    (proper : part ≠ segment) :
    decode part = none := by
  rcases within with ⟨more, rfl⟩
  cases sooner : decode part with
  | none => rfl
  | some found =>
    have again := decode_append (more ++ rest) sooner
    rw [← List.append_assoc, decoded] at again
    have left := congrArg List.length (Prod.mk.inj (Option.some.inj again)).2
    simp only [List.length_append] at left
    have empty : more = [] := List.eq_nil_of_length_eq_zero (by omega)
    exact absurd (by rw [empty, List.append_nil]) proper

end Determining

/-! ## Calls of a decoder -/

section Calls

variable
    {decoder after : Decoder}
    {event : Event}

theorem next_fst_eq_none_iff :
    decoder.next.1 = none ↔ decode decoder.pending = none := by
  cases decoded : decode decoder.pending with
  | none => simp [next_of_none decoded]
  | some found => simp [next_of_some decoded]

/-- A decoder has no event while it waits for what is begun to be ended. -/
theorem next_eq_none_iff_waits :
    decoder.next = (none, after) ↔
      after = decoder ∧
        (decoder.pending = [] ∨ IsUnfinished decoder.pending) := by
  rw [next_eq_none_iff, decode_eq_none_iff, and_comm]

/-- A decoder has an event as soon as the pending bytes determine one. -/
theorem next_eq_some_iff_determines :
    decoder.next = (some event, after) ↔
      ∃ segment : Bytes,
        decoder.pending = segment ++ after.pending ∧
          Determines segment event ∧
          (event = .plain .escape →
            ∃ (byte : UInt8) (later : Bytes),
              after.pending = byte :: later ∧
                byte ≠ 0x5b ∧ byte ≠ 0x4f) := by
  rw [next_eq_some_iff]
  constructor
  · intro decoded
    have shortest : ∀ segment : Bytes,
        decoder.pending = segment ++ after.pending →
          ∀ part : Bytes, part <+: segment → part ≠ segment →
            (feed {} part).next.1 = none := by
      intro segment parted part within proper
      rw [parted] at decoded
      exact
        next_fst_eq_none_iff.mpr
          (decode_eq_none_of_part decoded within proper)
    rcases decode_eq_some_iff.mp decoded with
      ⟨segment, read, parted⟩ | ⟨rfl, lone⟩
    · refine ⟨segment, parted, ⟨read.ne_nil, shortest _ parted, ?_⟩, ?_⟩
      · rw [if_neg read.ne_escape]
        exact next_of_some read.decode_eq
      · intro escape
        exact absurd escape read.ne_escape
    · generalize decoder.pending = pending at *
      generalize after.pending = left at *
      cases lone with
      | before byte later noControl noApplication =>
        refine
          ⟨[escapeByte], rfl,
            ⟨List.cons_ne_nil _ _, shortest _ rfl, ?_⟩, ?_⟩
        · rw [if_pos rfl]
        · intro escape
          exact ⟨byte, later, rfl, noControl, noApplication⟩
  · rintro ⟨segment, parted, determines, escapes⟩
    have alone := determines.alone
    rw [parted]
    split at alone
    · next escape =>
      rcases escapes escape with
        ⟨byte, later, left, noControl, noApplication⟩
      rw [alone, left]
      exact
        decode_eq_some_iff.mpr
          (Or.inr ⟨escape, .before byte later noControl noApplication⟩)
    · exact decode_append after.pending (next_eq_some_iff.mp alone)

/-- Giving up has no event exactly if nothing is pending. -/
theorem flush_eq_none_iff :
    decoder.flush = (none, after) ↔
      after = decoder ∧ decoder.pending = [] := by
  cases decoded : decode decoder.pending with
  | some found =>
    have filled : decoder.pending ≠ [] := by
      intro empty
      rw [empty] at decoded
      cases decoded
    simp [flush, decoded, filled]
  | none =>
    rw [flush_of_none decoded, Prod.mk.injEq, and_comm]
    constructor
    · rintro ⟨rfl, nothing⟩
      have empty : decoder.pending = [] := by
        apply Decidable.byContradiction
        intro filled
        rw [givenUp?_of_ne_nil filled] at nothing
        cases nothing
      exact ⟨by rw [← empty], empty⟩
    · rintro ⟨rfl, empty⟩
      rw [empty]
      exact ⟨by rw [← empty], rfl⟩

/-- Giving up returns the next event, or the event for what is begun. -/
theorem flush_eq_some_iff :
    decoder.flush = (some event, after) ↔
      decoder.next = (some event, after) ∨
        after = {} ∧ IsGivenUp decoder.pending event := by
  cases decoded : decode decoder.pending with
  | some found =>
    have finished : ¬ IsUnfinished decoder.pending := by
      intro unfinished
      rw [decode_eq_none_iff.mpr (Or.inr unfinished)] at decoded
      cases decoded
    have same : decoder.flush = decoder.next := by
      rw [flush, next, decoded]
    rw [same]
    constructor
    · exact Or.inl
    · rintro (returned | ⟨-, givenUp⟩)
      · exact returned
      · exact absurd givenUp.unfinished finished
  | none =>
    rw [flush_of_none decoded, next_of_none decoded]
    constructor
    · intro given
      rcases Prod.mk.inj given with ⟨same, rfl⟩
      have filled : decoder.pending ≠ [] := by
        intro empty
        rw [empty] at same
        cases same
      have unfinished :=
        (decode_eq_none_iff.mp decoded).resolve_left filled
      rw [givenUp?_of_ne_nil filled] at same
      exact Or.inr ⟨rfl, unfinished, (Option.some.inj same).symm⟩
    · rintro (never | ⟨rfl, givenUp⟩)
      · cases never
      · rw [givenUp?_of_ne_nil givenUp.unfinished.ne_nil,
          ← givenUp.event_eq]

end Calls

end TerminalEditor.Decoder

namespace TerminalEditor

/-- One call of a decoder. -/
inductive DecoderCall
  | feed (bytes : Bytes)
  | next
  | flush
  deriving DecidableEq, Repr

/-- The bytes that a call feeds. -/
def DecoderCall.fed : DecoderCall → Bytes
  | .feed bytes => bytes
  | _ => []

namespace Decoder

/-- The event that a call returns, and the decoder after it. -/
def answer
    (decoder : Decoder) :
    DecoderCall → Option Event × Decoder
  | .feed bytes => (none, decoder.feed bytes)
  | .next => decoder.next
  | .flush => decoder.flush

/-- The events that some calls return, and the decoder after them. -/
def answers
    (decoder : Decoder) :
    List DecoderCall → List Event × Decoder
  | [] => ([], decoder)
  | call :: later =>
    let answered := decoder.answer call
    let others := answered.2.answers later
    (answered.1.toList ++ others.1, others.2)

/-- An event stands for bytes that determine it, or that were given up. -/
def StandsFor
    (event : Event)
    (segment : Bytes) :
    Prop :=
  Determines segment event ∨ IsGivenUp segment event

theorem StandsFor.ne_nil {event : Event} {segment : Bytes}
    (stands : StandsFor event segment) :
    segment ≠ [] :=
  stands.elim Determines.filled fun givenUp => givenUp.unfinished.ne_nil

section Accounting

variable
    {decoder after : Decoder}
    {answer : Option Event}
    {event : Event}

theorem exists_segment_of_next
    (returned : decoder.next = (some event, after)) :
    ∃ segment : Bytes,
      StandsFor event segment ∧
        decoder.pending = segment ++ after.pending := by
  rcases next_eq_some_iff_determines.mp returned with
    ⟨segment, parted, determines, -⟩
  exact ⟨segment, Or.inl determines, parted⟩

theorem exists_segment_of_flush
    (returned : decoder.flush = (some event, after)) :
    ∃ segment : Bytes,
      StandsFor event segment ∧
        decoder.pending = segment ++ after.pending := by
  rcases flush_eq_some_iff.mp returned with decoded | ⟨rfl, givenUp⟩
  · exact exists_segment_of_next decoded
  · exact
      ⟨decoder.pending, Or.inr givenUp, (List.append_nil _).symm⟩

/-- An answer stands for the bytes taken, and none is taken without one. -/
theorem exists_segments_of_taken
    (kept : answer = none → after = decoder)
    (taken :
      ∀ event : Event, answer = some event →
        ∃ segment : Bytes,
          StandsFor event segment ∧
            decoder.pending = segment ++ after.pending) :
    ∃ segments : List Bytes,
      List.Forall₂ StandsFor answer.toList segments ∧
        decoder.pending ++ [] = segments.flatten ++ after.pending := by
  rw [List.append_nil]
  cases answer with
  | none => exact ⟨[], .nil, by rw [kept rfl]; rfl⟩
  | some event =>
    rcases taken event rfl with ⟨segment, stands, parted⟩
    refine ⟨[segment], .cons stands .nil, ?_⟩
    rw [parted, List.flatten_singleton]

end Accounting

/-- What one call returns stands for the first pending bytes. -/
theorem exists_segments_of_answer
    (decoder : Decoder)
    (call : DecoderCall) :
    ∃ segments : List Bytes,
      List.Forall₂ StandsFor (decoder.answer call).1.toList segments ∧
        decoder.pending ++ call.fed =
          segments.flatten ++ (decoder.answer call).2.pending := by
  cases call with
  | feed bytes => exact ⟨[], .nil, rfl⟩
  | next =>
    apply exists_segments_of_taken
    · intro nothing
      exact (next_eq_none_iff_waits.mp (Prod.ext nothing rfl)).1
    · intro event returned
      exact exists_segment_of_next (Prod.ext returned rfl)
  | flush =>
    apply exists_segments_of_taken
    · intro nothing
      exact (flush_eq_none_iff.mp (Prod.ext nothing rfl)).1
    · intro event returned
      exact exists_segment_of_flush (Prod.ext returned rfl)

/-- What calls return stands for the bytes that are not pending any more. -/
theorem exists_segments
    (decoder : Decoder)
    (calls : List DecoderCall) :
    ∃ segments : List Bytes,
      List.Forall₂ StandsFor (decoder.answers calls).1 segments ∧
        decoder.pending ++ calls.flatMap DecoderCall.fed =
          segments.flatten ++ (decoder.answers calls).2.pending := by
  induction calls generalizing decoder with
  | nil => exact ⟨[], .nil, by simp [answers]⟩
  | cons call later ih =>
    rcases decoder.exists_segments_of_answer call with
      ⟨first, firstStands, firstEq⟩
    rcases ih (decoder.answer call).2 with
      ⟨others, othersStand, othersEq⟩
    refine
      ⟨first ++ others, List.rel_append firstStands othersStand, ?_⟩
    rw [List.flatMap_cons, ← List.append_assoc, firstEq,
      List.append_assoc, othersEq, List.flatten_append,
      List.append_assoc]
    rfl

/-- Giving up takes a byte at least, if there is one. -/
theorem length_flush_le (decoder : Decoder) :
    decoder.flush.2.pending.length ≤ decoder.pending.length - 1 := by
  rcases returned : decoder.flush with ⟨answer, after⟩
  cases answer with
  | none =>
    rcases flush_eq_none_iff.mp returned with ⟨rfl, empty⟩
    rw [empty]
    exact Nat.le_refl 0
  | some event =>
    rcases exists_segment_of_flush returned with
      ⟨segment, stands, parted⟩
    have filled := List.length_pos_iff.mpr stands.ne_nil
    show after.pending.length ≤ decoder.pending.length - 1
    rw [parted, List.length_append]
    omega

/-- Giving up as often as there are bytes leaves none of them. -/
theorem answers_flush
    (decoder : Decoder)
    {count : Nat}
    (enough : decoder.pending.length ≤ count) :
    (decoder.answers (List.replicate count .flush)).2 = {} := by
  induction count generalizing decoder with
  | zero =>
    cases decoder with
    | mk pending =>
      have empty : pending = [] :=
        List.eq_nil_of_length_eq_zero (Nat.le_zero.mp enough)
      rw [empty]
      rfl
  | succ count ih =>
    apply ih decoder.flush.2
    exact
      Nat.le_trans decoder.length_flush_le (Nat.sub_le_of_le_add enough)

/--
All bytes that were fed are, in order, the ones that the returned events stand
for, one at least for each event, and the pending ones.  A decoder waits only if
nothing is pending or something is begun that can still be ended; else it
returns the event that the first pending bytes determine.  Giving up returns an
event exactly if something is pending: the next one, or one for all that is
begun; and after as many times as there are pending bytes nothing is pending.
-/
theorem calls_account_for_bytes
    (calls : List DecoderCall)
    (decoder : Decoder) :
    (∃ segments : List Bytes,
      List.Forall₂ StandsFor (answers {} calls).1 segments ∧
        (∀ segment ∈ segments, segment ≠ []) ∧
        calls.flatMap DecoderCall.fed =
          segments.flatten ++ (answers {} calls).2.pending) ∧
      (∀ after : Decoder,
        decoder.next = (none, after) ↔
          after = decoder ∧
            (decoder.pending = [] ∨ IsUnfinished decoder.pending)) ∧
      (IsUnfinished decoder.pending →
        ∃ (more : Bytes) (event : Event),
          (decoder.feed more).next = (some event, {})) ∧
      (∀ (event : Event) (after : Decoder),
        decoder.next = (some event, after) ↔
          ∃ segment : Bytes,
            decoder.pending = segment ++ after.pending ∧
              Determines segment event ∧
              (event = .plain .escape →
                ∃ (byte : UInt8) (later : Bytes),
                  after.pending = byte :: later ∧
                    byte ≠ 0x5b ∧ byte ≠ 0x4f)) ∧
      (∀ after : Decoder,
        decoder.flush = (none, after) ↔
          after = decoder ∧ decoder.pending = []) ∧
      (∀ (event : Event) (after : Decoder),
        decoder.flush = (some event, after) ↔
          decoder.next = (some event, after) ∨
            after = {} ∧ IsGivenUp decoder.pending event) ∧
      (decoder.answers
        (List.replicate decoder.pending.length .flush)).2 = {} := by
  refine ⟨?_, ?_, ?_, ?_, ?_, ?_, ?_⟩
  · rcases exists_segments {} calls with ⟨segments, stand, whole⟩
    have filled :
        List.Forall₂
          (fun segment event => segment ≠ [] ∧ StandsFor event segment)
          segments (answers {} calls).1 :=
      stand.flip.imp fun _ _ stands => ⟨StandsFor.ne_nil stands, stands⟩
    exact
      ⟨segments, stand, ((List.forall₂_and_left _ _).mp filled).1, whole⟩
  · intro after
    exact next_eq_none_iff_waits
  · intro unfinished
    rcases unfinished.exists_end with ⟨more, event, ended⟩
    exact ⟨more, event, next_of_some ended⟩
  · intro event after
    exact next_eq_some_iff_determines
  · intro after
    exact flush_eq_none_iff
  · intro event after
    exact flush_eq_some_iff
  · exact decoder.answers_flush (Nat.le_refl _)

/--
An escape byte that is given up, one before a letter, and a character that is
cut off: each event stands for one byte.  A number that is begun can be ended.
-/
theorem calls_account_for_cut_bytes :
    (∃ segments : List Bytes,
      List.Forall₂ StandsFor
          [.plain .escape, .plain .escape, .plain (.char 'a'), .unknown]
          segments ∧
        (∀ segment ∈ segments, segment ≠ []) ∧
        [0x1b, 0x1b, 0x61, 0xc3] = segments.flatten ++ []) ∧
      IsUnfinished [0x1b, 0x5b, 0x31] ∧
      ∃ (more : Bytes) (event : Event),
        (feed ⟨[0x1b, 0x5b, 0x31]⟩ more).next = (some event, {}) := by
  let calls : List DecoderCall :=
    [.feed [0x1b], .next, .flush, .feed [0x1b, 0x61, 0xc3],
      .next, .next, .next, .flush]
  have returned :
      answers {} calls =
        ([.plain .escape, .plain .escape, .plain (.char 'a'), .unknown],
          {}) := by
    decide
  have unfinished : IsUnfinished [0x1b, 0x5b, 0x31] :=
    .control [0x31] (List.forall_mem_singleton.mpr (by decide))
  rcases calls_account_for_bytes calls ⟨[0x1b, 0x5b, 0x31]⟩ with
    ⟨segments, -, ended, -⟩
  rw [returned] at segments
  exact ⟨segments, unfinished, ended unfinished⟩

end Decoder

end TerminalEditor
