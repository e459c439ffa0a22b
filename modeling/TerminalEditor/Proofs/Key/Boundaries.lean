import TerminalEditor.Proofs.Key.Progress

/-!
# Places where a key begins

A lead byte announces at most three bytes, and takes them whatever they are.  So
malformed input may take bytes that were meant as keys of their own, but no more
than three of them: unless a sequence is begun, a place is passed over only by a
lead among the three bytes before it.  After three bytes that are no such leads
the input is decoded as if nothing had come before.
-/

namespace TerminalEditor.Decoder

/--
The last bytes announce no byte after them: the last is no lead, the one before it
is no lead of three bytes or four, and the one before that no lead of four.
-/
structure IsSettled (before : Bytes) : Prop where
  last (earlier : Bytes) (byte : UInt8)
    (ends : before = earlier ++ [byte]) :
    ¬ (0xc0 ≤ byte ∧ byte ≤ 0xf7)
  second (earlier : Bytes) (byte next : UInt8)
    (ends : before = earlier ++ [byte, next]) :
    ¬ (0xe0 ≤ byte ∧ byte ≤ 0xf7)
  third (earlier : Bytes) (byte next last : UInt8)
    (ends : before = earlier ++ [byte, next, last]) :
    ¬ (0xf0 ≤ byte ∧ byte ≤ 0xf7)

/--
However these bytes are cut and the decoder is polled in between, polling it until
it has no event completes these events and leaves the rest pending.
-/
def Returns
    (bytes : Bytes)
    (events : List Event)
    (rest : Bytes) :
    Prop :=
  ∀ uses : List DecoderUse, fed uses = bytes →
    ∃ later : List Event,
      (∀ (found : List Event) (after : Decoder),
        Drains (follow {} uses).2 found after ↔
          found = later ∧ after = ⟨rest⟩) ∧
        (follow {} uses).1 ++ later = events

/--
A key begins between these bytes: the first ones are decoded up to their end, and
the others as by a fresh decoder.
-/
def KeyBegins (before after : Bytes) : Prop :=
  ∃ (events later : List Event) (rest : Bytes),
    Returns before events [] ∧ Returns after later rest ∧
      Returns (before ++ after) (events ++ later) rest

section Boundaries

variable
    {bytes before rest : Bytes}
    {event : Event}
    {events : List Event}

/-- A decoder returns what the bytes are drained to. -/
theorem returns_of_drain
    (drained : drain bytes = (events, rest)) :
    Returns bytes events rest := by
  intro uses fedSo
  rw [← fedSo] at drained
  exact exists_drains drained

/-- What is left of some bytes is their end. -/
theorem isSuffix_of_decode
    (decoded : decode bytes = some (event, rest)) :
    rest <:+ bytes := by
  rcases decode_eq_some_iff.mp decoded with
    ⟨segment, -, rfl⟩ | ⟨-, lone⟩
  · exact List.suffix_append segment rest
  · cases lone with
    | before byte later noControl noApplication =>
      exact List.suffix_cons escapeByte (byte :: later)

theorem drain_snd_isSuffix (bytes : Bytes) :
    (drain bytes).2 <:+ bytes := by
  fun_induction drain bytes with
  | case1 bytes incomplete => exact List.suffix_rfl
  | case2 bytes event rest decoded shorter later ih =>
    exact ih.trans (isSuffix_of_decode decoded)

/-- The more bytes a lead byte announces, the larger it is. -/
theorem Announces.range
    {lead : UInt8}
    {count : Nat}
    (announced : Announces lead count) :
    0xc0 ≤ lead ∧ lead ≤ 0xf7 ∧ (1 < count → 0xe0 ≤ lead) ∧
      (2 < count → 0xf0 ≤ lead) ∧ count ≤ 3 := by
  rcases announced with
    ⟨low, high, rfl⟩ | ⟨low, high, rfl⟩ | ⟨low, high, rfl⟩
  all_goals grind

namespace IsSettled

/-- What a lead byte announces does not reach over the end. -/
theorem count_le
    (settled : IsSettled before)
    {earlier begun : Bytes}
    {lead : UInt8}
    {count : Nat}
    (ends : before = earlier ++ lead :: begun)
    (announced : Announces lead count) :
    count ≤ begun.length := by
  rcases announced.range with ⟨low, high, wide, widest, most⟩
  match begun with
  | [] => exact absurd ⟨low, high⟩ (settled.last _ _ ends)
  | [_] =>
    apply Nat.le_of_not_lt
    intro more
    exact absurd ⟨wide more, high⟩ (settled.second _ _ _ ends)
  | [_, _] =>
    apply Nat.le_of_not_lt
    intro more
    exact absurd ⟨widest more, high⟩ (settled.third _ _ _ _ ends)
  | _ :: _ :: _ :: further =>
    exact Nat.le_trans most (Nat.le_add_left 3 further.length)

/-- Three bytes that are no leads settle whatever comes before them. -/
theorem of_run
    (earlier : Bytes)
    {first second third : UInt8}
    (firstFree : ¬ (0xf0 ≤ first ∧ first ≤ 0xf7))
    (secondFree : ¬ (0xe0 ≤ second ∧ second ≤ 0xf7))
    (thirdFree : ¬ (0xc0 ≤ third ∧ third ≤ 0xf7)) :
    IsSettled (earlier ++ [first, second, third]) := by
  have backwards {other ending : Bytes}
      (ends : earlier ++ [first, second, third] = other ++ ending) :
      third :: second :: first :: earlier.reverse =
        ending.reverse ++ other.reverse := by
    rw [← List.reverse_append, ← ends, List.reverse_append]
    rfl
  constructor
  · intro other byte ends
    rcases List.cons.inj (backwards ends) with ⟨rfl, -⟩
    exact thirdFree
  · intro other byte next ends
    rcases List.cons.inj (backwards ends) with ⟨-, fromSecond⟩
    rcases List.cons.inj fromSecond with ⟨rfl, -⟩
    exact secondFree
  · intro other byte next last ends
    rcases List.cons.inj (backwards ends) with ⟨-, fromSecond⟩
    rcases List.cons.inj fromSecond with ⟨-, fromFirst⟩
    rcases List.cons.inj fromFirst with ⟨rfl, -⟩
    exact firstFree

/-- Bytes without an escape byte that are settled are decoded up to their end. -/
theorem drain_snd_eq_nil
    (settled : IsSettled before)
    (noEscape : escapeByte ∉ before) :
    (drain before).2 = [] := by
  have waits := decode_drain_snd before
  rcases drain_snd_isSuffix before with ⟨taken, parted⟩
  generalize (drain before).2 = pending at waits parted
  rcases decode_eq_none_iff.mp waits with empty | unfinished
  · exact empty
  have absent : escapeByte ∉ pending := by
    intro member
    exact noEscape (parted ▸ List.mem_append_right taken member)
  cases unfinished with
  | escape => exact absurd List.mem_cons_self absent
  | application => exact absurd List.mem_cons_self absent
  | control begun noFinal => exact absurd List.mem_cons_self absent
  | character lead count begun announced short =>
    have reached := settled.count_le parted.symm announced
    exact absurd short (Nat.not_lt.mpr reached)

/-- What follows settled bytes is decoded as if it came first. -/
theorem drain_append
    (settled : IsSettled before)
    (noEscape : escapeByte ∉ before)
    (after : Bytes) :
    drain (before ++ after) =
      ((drain before).1 ++ (drain after).1, (drain after).2) := by
  rw [Decoder.drain_append, settled.drain_snd_eq_nil noEscape,
    List.nil_append]

theorem returns
    (settled : IsSettled before)
    (noEscape : escapeByte ∉ before) :
    Returns before (drain before).1 [] :=
  returns_of_drain (Prod.ext rfl (settled.drain_snd_eq_nil noEscape))

theorem keyBegins
    (settled : IsSettled before)
    (noEscape : escapeByte ∉ before)
    (after : Bytes) :
    KeyBegins before after :=
  ⟨(drain before).1, (drain after).1, (drain after).2,
    settled.returns noEscape, returns_of_drain rfl,
    returns_of_drain (settled.drain_append noEscape after)⟩

end IsSettled

/-- An ASCII byte is decoded by itself. -/
theorem decode_ascii
    {byte : UInt8}
    (ascii : byte ≤ 0x7f)
    (noEscape : byte ≠ escapeByte)
    (after : Bytes) :
    decode (byte :: after) =
      some (typedEvent (Utf8.charOf byte), after) := by
  have small : byte.toNat ≤ 0x7f := UInt8.le_iff_toNat_le.mp ascii
  have number : (Utf8.charOf byte).toNat = byte.toNat :=
    Utf8.toNat_charOf
  have typed : Utf8.charOf byte ≠ '\x1b' := by
    intro same
    apply noEscape
    apply UInt8.toNat_inj.mp
    rw [← number, same]
    rfl
  have decoded := decode_encodeChar typed after
  rwa [Utf8.encodeChar_of_ascii (number ▸ small), number,
    UInt8.ofNat_toNat] at decoded

theorem escapeByte_notMem_append
    {first second third : UInt8}
    (noEscape : escapeByte ∉ before)
    (free : ∀ each ∈ [first, second, third], each ≠ escapeByte) :
    escapeByte ∉ before ++ [first, second, third] := by
  rw [List.mem_append, not_or]
  exact ⟨noEscape, fun member => free escapeByte member rfl⟩

end Boundaries

/--
Bytes without an escape byte that are settled end with a key: they are decoded
up to their end, and what follows them is decoded as by a fresh decoder, however
all of it is cut.  So three bytes that are no leads settle any input before them,
and an ASCII byte after three others is the key that it is by itself.
-/
theorem key_begins_after_settled
    (before after : Bytes)
    (noEscape : escapeByte ∉ before) :
    (IsSettled before → KeyBegins before after) ∧
      (∀ first second third : UInt8,
        (∀ each ∈ [first, second, third],
          each ≠ escapeByte ∧ ¬ (0xc0 ≤ each ∧ each ≤ 0xf7)) →
        KeyBegins (before ++ [first, second, third]) after) ∧
      ∀ first second third byte : UInt8,
        (∀ each ∈ [first, second, third, byte],
          each ≠ escapeByte ∧ each ≤ 0x7f) →
        ∃ (events later : List Event) (rest : Bytes),
          Returns (before ++ [first, second, third]) events [] ∧
            Returns [byte] [typedEvent (Utf8.charOf byte)] [] ∧
            Returns after later rest ∧
            Returns (before ++ [first, second, third] ++ byte :: after)
              (events ++ typedEvent (Utf8.charOf byte) :: later) rest := by
  refine ⟨fun settled => settled.keyBegins noEscape after, ?_, ?_⟩
  · intro first second third free
    have noEscapes := escapeByte_notMem_append noEscape fun each member =>
      (free each member).1
    simp only [List.forall_mem_cons] at free
    rcases free with ⟨⟨-, firstFree⟩, ⟨-, secondFree⟩, ⟨-, thirdFree⟩, -⟩
    have settled : IsSettled (before ++ [first, second, third]) := by
      apply IsSettled.of_run
      · exact fun lead => firstFree ⟨by grind, lead.2⟩
      · exact fun lead => secondFree ⟨by grind, lead.2⟩
      · exact thirdFree
    exact settled.keyBegins noEscapes after
  · intro first second third byte plain
    have noEscapes := escapeByte_notMem_append noEscape fun each member =>
      (plain each (List.mem_append_left [byte] member)).1
    simp only [List.forall_mem_cons] at plain
    rcases plain with
      ⟨⟨-, firstSmall⟩, ⟨-, secondSmall⟩, ⟨-, thirdSmall⟩,
        ⟨byteFree, byteSmall⟩, -⟩
    have settled : IsSettled (before ++ [first, second, third]) := by
      apply IsSettled.of_run
      all_goals grind
    have alone : drain [byte] = ([typedEvent (Utf8.charOf byte)], []) := by
      rw [drain_of_some (decode_ascii byteSmall byteFree []),
        drain_of_none rfl]
    refine
      ⟨_, (drain after).1, (drain after).2, settled.returns noEscapes,
        returns_of_drain alone, returns_of_drain rfl, ?_⟩
    apply returns_of_drain
    rw [settled.drain_append noEscapes,
      drain_of_some (decode_ascii byteSmall byteFree after)]

/--
Leads that follow each other take what comes next, and a character is decoded
after them; a lead of four takes three letters, and not the fourth.
-/
theorem key_begins_after_garbage :
    let garbage : Bytes := [0xf4, 0xe2, 0xc3, 0x80, 0x61]
    IsSettled garbage ∧ KeyBegins garbage [0xc3, 0xa9] ∧
      KeyBegins (garbage ++ [0xff, 0x80, 0x62]) [0xc3] ∧
      ∃ (events later : List Event) (rest : Bytes),
        Returns ([0xf4] ++ [0x61, 0x62, 0x63]) events [] ∧
          Returns [0x64] [.plain (.char 'd')] [] ∧
          Returns [0xc3] later rest ∧
          Returns ([0xf4] ++ [0x61, 0x62, 0x63] ++ [0x64, 0xc3])
            (events ++ .plain (.char 'd') :: later) rest := by
  intro garbage
  have settled : IsSettled garbage :=
    IsSettled.of_run [0xf4, 0xe2] (by decide) (by decide) (by decide)
  rcases key_begins_after_settled garbage [0xc3, 0xa9] (by decide) with
    ⟨begins, -, -⟩
  rcases key_begins_after_settled garbage [0xc3] (by decide) with
    ⟨-, run, -⟩
  rcases key_begins_after_settled [0xf4] [0xc3] (by decide) with
    ⟨-, -, letter⟩
  exact
    ⟨settled, begins settled, run 0xff 0x80 0x62 (by simp [escapeByte]),
      letter 0x61 0x62 0x63 0x64 (by simp [escapeByte])⟩

end TerminalEditor.Decoder
