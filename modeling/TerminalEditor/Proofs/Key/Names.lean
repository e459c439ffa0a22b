import Mathlib.Tactic.IntervalCases
import TerminalEditor.Key.Encoding
import TerminalEditor.Proofs.Key.Segments
import TerminalEditor.Proofs.Text.Ascii

/-!
# The names of keys

The letters and the numbers that name a key at the end of a sequence name no
other one.  So a sequence is a key exactly if it names it, and the escape key is
the one key that no sequence names.
-/

namespace TerminalEditor.Decoder

variable
    {code : KeyCode}
    {key : Key}
    {letter : UInt8}
    {number : Nat}

/-! ## Letters and numbers -/

/-- The letter of a key ends a sequence and is that of no other key. -/
theorem cursorKey?_of_letter
    (named : code.letter? = some letter) :
    cursorKey? letter = some code ∧
      isFinal letter = true ∧ letter ≠ 0x7e := by
  cases code <;> cases named <;> exact ⟨rfl, rfl, by decide⟩

/-- A letter names a key exactly if it is the letter of that key. -/
theorem cursorKey?_eq_some_iff :
    cursorKey? letter = some code ↔ code.letter? = some letter := by
  constructor
  · intro named
    have numbered : ∀ other : UInt8,
        Char.ofNat letter.toNat = Utf8.charOf other → other = letter :=
      fun other same => Utf8.charOf_injective same.symm
    unfold cursorKey? at named
    split at named
    case h_7 => cases named
    all_goals
      next same =>
        cases named
        exact congrArg some (numbered _ same)
  · intro named
    exact (cursorKey?_of_letter named).1

theorem numberedKey?_of_function {index : Nat}
    (named : number ∈ (KeyCode.function index).numbers) :
    numberedKey? number = some (.function index) ∧ number ≤ 24 := by
  have bounds : 1 ≤ index ∧ index ≤ 12 := by
    apply Decidable.byContradiction
    intro outside
    rw [KeyCode.numbers, if_neg (by omega), if_neg (by omega),
      if_neg (by omega)] at named
    cases named
  rcases bounds with ⟨low, high⟩
  interval_cases index <;>
    · cases List.mem_singleton.mp named
      exact ⟨rfl, by decide⟩

/-- The number of a key is that of no other key. -/
theorem numberedKey?_of_mem
    (named : number ∈ code.numbers) :
    numberedKey? number = some code ∧ number ≤ 24 := by
  cases code with
  | function index => exact numberedKey?_of_function named
  | home | endKey =>
    rcases List.mem_cons.mp named with rfl | second
    · exact ⟨rfl, by decide⟩
    · cases List.mem_singleton.mp second
      exact ⟨rfl, by decide⟩
  | insert | delete | pageUp | pageDown =>
    cases List.mem_singleton.mp named
    exact ⟨rfl, by decide⟩
  | _ => cases named

/-- A number names a key exactly if it is one of the numbers of that key. -/
theorem numberedKey?_eq_some_iff :
    numberedKey? number = some code ↔ number ∈ code.numbers := by
  constructor
  · intro named
    unfold numberedKey? at named
    split at named
    case h_9 =>
      split_ifs at named
      all_goals
        cases named
        rw [KeyCode.numbers]
        split_ifs <;> simp <;> omega
    all_goals
      cases named
      decide
  · intro named
    exact (numberedKey?_of_mem named).1

/-- A key of a control sequence has the same letter in application mode. -/
theorem applicationLetter?_of_letter
    (named : code.letter? = some letter) :
    code.applicationLetter? = some letter := by
  cases code with
  | function index => cases named
  | _ => exact named

theorem applicationEvent_of_letter
    (named : code.applicationLetter? = some letter) :
    applicationEvent letter = .plain code := by
  unfold KeyCode.applicationLetter? at named
  split at named
  case h_5 => rw [applicationEvent, (cursorKey?_of_letter named).1]
  all_goals
    cases named
    rfl

/-- In application mode a letter is a key exactly if it names that key. -/
theorem applicationEvent_eq_key_iff :
    applicationEvent letter = .key key ↔
      key.code.applicationLetter? = some letter ∧
        key.modifiers = .empty := by
  constructor
  · intro event
    rw [applicationEvent] at event
    split at event
    · next code known =>
      cases event
      have named := cursorKey?_eq_some_iff.mp known
      exact ⟨applicationLetter?_of_letter named, rfl⟩
    · split at event
      · next range =>
        cases event
        have low := UInt8.le_iff_toNat_le.mp range.1
        have high := UInt8.le_iff_toNat_le.mp range.2
        simp only [UInt8.reduceToNat] at low high
        have back : letter = UInt8.ofNat letter.toNat :=
          UInt8.ofNat_toNat.symm
        rw [back]
        generalize letter.toNat = index at low high
        interval_cases index <;> exact ⟨rfl, rfl⟩
      · cases event
  · rintro ⟨named, held⟩
    rw [applicationEvent_of_letter named, Event.plain, ← held]

/-! ## Sequences -/

theorem isParameter_iff {byte : UInt8} :
    isParameter byte = true ↔ 0x20 ≤ byte ∧ byte ≤ 0x3f := by
  rw [isParameter, Bool.and_eq_true, decide_eq_true_eq, decide_eq_true_eq]

/-- The last byte of a sequence, or the number before it, names the key. -/
theorem named_eq_some_iff
    {final : UInt8}
    {parameters : List (Option Nat)} :
    (if final = 0x7e then
        parameters.head?.join.bind numberedKey?
      else
        cursorKey? final) =
        some code ↔
      code.letter? = some final ∨
        final = 0x7e ∧
          ∃ number ∈ code.numbers, parameters.head? = some (some number) := by
  split
  · next tilde =>
    rw [Option.bind_eq_some_iff]
    simp only [numberedKey?_eq_some_iff, Option.join_eq_some_iff]
    constructor
    · rintro ⟨number, first, named⟩
      exact Or.inr ⟨tilde, number, named, first⟩
    · rintro (lettered | ⟨-, number, named, first⟩)
      · exact absurd tilde (cursorKey?_of_letter lettered).2.2
      · exact ⟨number, first, named⟩
  · next other =>
    rw [cursorKey?_eq_some_iff]
    constructor
    · exact Or.inl
    · rintro (lettered | ⟨tilde, -⟩)
      · exact lettered
      · exact absurd tilde other

/--
A control sequence is a key exactly if it has parameter bytes only and ends with
the letter of the key, or with `~` after a first parameter that is one of the
key's numbers.  The second parameter tells the modifiers.
-/
theorem controlEvent_eq_key_iff
    {parameterBytes : Bytes}
    {final : UInt8} :
    controlEvent parameterBytes final = .key key ↔
      (∀ byte ∈ parameterBytes, isParameter byte = true) ∧
        (key.code.letter? = some final ∨
          final = 0x7e ∧
            ∃ number ∈ key.code.numbers,
              ((Text.fields 0x3b parameterBytes).map parameter?).head? =
                some (some number)) ∧
        key.modifiers =
          modifiersOf ((Text.fields 0x3b parameterBytes).map parameter?) := by
  rw [controlEvent]
  generalize (Text.fields 0x3b parameterBytes).map parameter? = parameters
  rw [← named_eq_some_iff]
  by_cases inner : parameterBytes.all isParameter = true
  · rw [if_pos inner]
    simp only
    rw [List.all_eq_true] at inner
    generalize
      (if final = 0x7e then
          parameters.head?.join.bind numberedKey?
        else
          cursorKey? final) =
        named
    cases named with
    | none => simp
    | some code =>
      constructor
      · intro same
        cases same
        exact ⟨inner, rfl, rfl⟩
      · rintro ⟨-, same, held⟩
        cases same
        rw [← held]
  · rw [if_neg inner]
    rw [List.all_eq_true] at inner
    constructor
    · nofun
    · intro proper
      exact absurd proper.1 inner

/-- No bytes are read as the escape key whatever follows them. -/
theorem ReadAs.ne_escape
    {segment : Bytes}
    {event : Event}
    (read : ReadAs segment event) :
    event ≠ .plain .escape := by
  cases read with
  | controlByte byte event noEscape known =>
    rintro rfl
    rw [controlByte?] at known
    split_ifs at known <;> cases known
  | stray => nofun
  | character lead followers noEscape noKey announced =>
    rw [characterEvent]
    split
    · split_ifs <;> nofun
    · nofun
  | control parameters final inner ends =>
    intro same
    rcases (controlEvent_eq_key_iff.mp same).2.1 with
      lettered | ⟨-, number, named, -⟩
    · cases lettered
    · cases named
  | application letter =>
    intro same
    cases (applicationEvent_eq_key_iff.mp same).1

end TerminalEditor.Decoder
