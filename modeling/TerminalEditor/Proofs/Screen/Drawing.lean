import TerminalEditor.Proofs.Screen.Signals
import TerminalEditor.Proofs.Text.ReadBack
import TerminalEditor.Screen.Display
import TerminalEditor.Screen.Output

/-!
# What commands draw

A display that receives the bytes of commands carries them out one after the
other.  A style, a place and a blank screen are set whatever the display was
before.  Text that fits into the rest of a row is laid over its cells and never
moves another row, not even when it ends in the last column.
-/

namespace TerminalEditor

namespace Display

/-- The display after one command. -/
def perform
    (display : Display)
    (command : Command) :
    Display :=
  command.signals.foldl obey display

/-- The display after some commands. -/
def carryOut
    (display : Display)
    (commands : List Command) :
    Display :=
  commands.foldl perform display

/-- The display after it has received some bytes. -/
def receive
    (display : Display)
    (bytes : Bytes) :
    Display :=
  display.feed (Utf8.lossy bytes)

@[simp]
theorem carryOut_nil (display : Display) :
    display.carryOut [] = display :=
  rfl

@[simp]
theorem carryOut_cons
    (display : Display)
    (command : Command)
    (commands : List Command) :
    display.carryOut (command :: commands) =
      (display.perform command).carryOut commands :=
  rfl

theorem carryOut_append
    (display : Display)
    (first second : List Command) :
    display.carryOut (first ++ second) =
      (display.carryOut first).carryOut second :=
  List.foldl_append

end Display

/-- Text of printable ASCII characters. -/
def IsPrintableText (text : List Char) : Prop :=
  ∀ char ∈ text, 0x20 ≤ char.toNat ∧ char.toNat ≤ 0x7e

theorem isPrintableText_of_all {text : List Char}
    (all :
      text.all (fun char =>
        0x20 ≤ char.toNat ∧ char.toNat ≤ 0x7e) = true) :
    IsPrintableText text := by
  intro char member
  exact of_decide_eq_true (List.all_eq_true.mp all char member)

theorem IsPrintableText.append {first second : List Char}
    (firstPrintable : IsPrintableText first)
    (secondPrintable : IsPrintableText second) :
    IsPrintableText (first ++ second) :=
  List.forall_mem_append.mpr ⟨firstPrintable, secondPrintable⟩

/-- Text of printable ASCII characters and escape characters. -/
def IsSentText (text : List Char) : Prop :=
  ∀ char ∈ text,
    char = '\x1b' ∨ 0x20 ≤ char.toNat ∧ char.toNat ≤ 0x7e

theorem isSentText_of_all {text : List Char}
    (all :
      text.all (fun char =>
        char = '\x1b' ∨ 0x20 ≤ char.toNat ∧ char.toNat ≤ 0x7e) = true) :
    IsSentText text := by
  intro char member
  exact of_decide_eq_true (List.all_eq_true.mp all char member)

theorem IsSentText.append {first second : List Char}
    (firstSent : IsSentText first)
    (secondSent : IsSentText second) :
    IsSentText (first ++ second) :=
  List.forall_mem_append.mpr ⟨firstSent, secondSent⟩

theorem IsSentText.isAscii {text : List Char}
    (sent : IsSentText text) :
    Utf8.IsAscii text := by
  intro char member
  rcases sent char member with rfl | printable
  · exact Nat.le_of_ble_eq_true rfl
  · omega

namespace Command

/-- A command that shows printable ASCII characters only. -/
def IsPrintable : Command → Prop
  | .text characters => IsPrintableText characters
  | _ => True

variable {command : Command}

theorem IsPrintable.isClean
    (printable : command.IsPrintable) :
    command.IsClean := by
  cases command with
  | text characters =>
    intro member
    have := (printable '\x1b' member).1
    contradiction
  | _ => trivial

theorem isPrintable_ofStyle (style : Style) :
    ∀ command ∈ ofStyle style, command.IsPrintable := by
  simp [ofStyle, IsPrintable]

theorem isPrintable_farewell :
    ∀ command ∈ farewell, command.IsPrintable := by
  simp [farewell, ofStyle, IsPrintable]

theorem isSentText_decimal (number : UInt16) :
    IsSentText (decimal number) := by
  intro char member
  have digit := Utf8.toNat_of_mem_toDigits member
  exact Or.inr ⟨by omega, by omega⟩

/-- Control sequences are fit to be sent, so only text has to be looked at. -/
theorem IsPrintable.isSentText
    (printable : command.IsPrintable) :
    IsSentText command.encode := by
  cases command with
  | clear => exact isSentText_of_all rfl
  | home => exact isSentText_of_all rfl
  | moveTo place =>
    rw [encode]
    refine (((IsSentText.append ?_ ?_).append ?_).append ?_).append ?_
    · exact isSentText_of_all rfl
    · exact isSentText_decimal _
    · exact isSentText_of_all rfl
    · exact isSentText_decimal _
    · exact isSentText_of_all rfl
  | showCursor visible => cases visible <;> exact isSentText_of_all rfl
  | foreground color => cases color <;> exact isSentText_of_all rfl
  | background color => cases color <;> exact isSentText_of_all rfl
  | weight level => cases level <;> exact isSentText_of_all rfl
  | underline on => cases on <;> exact isSentText_of_all rfl
  | text characters =>
    intro char member
    exact Or.inr (printable char member)

theorem isSentText_encodeAll {commands : List Command}
    (printable : ∀ command ∈ commands, command.IsPrintable) :
    IsSentText (encodeAll commands) := by
  intro char member
  rcases List.mem_flatMap.mp member with ⟨command, among, inside⟩
  exact (printable command among).isSentText char inside

end Command

namespace Display

/-- What is received is carried out, if it shows printable text only. -/
theorem receive_bytesOf
    (display : Display)
    (commands : List Command)
    (printable : ∀ command ∈ commands, command.IsPrintable) :
    display.receive (Command.bytesOf commands) =
      display.carryOut commands := by
  rw [receive, feed, Command.bytesOf, Utf8.lossy_encode,
    Command.readAll_encodeAll commands fun command member =>
      (printable command member).isClean,
    List.foldl_flatMap]
  rfl

theorem perform_clear (display : Display) :
    display.perform .clear = display.erase :=
  rfl

theorem perform_showCursor
    (display : Display)
    (visible : Bool) :
    display.perform (.showCursor visible) =
      { display with showsCursor := visible } := by
  cases visible <;> rfl

/-- A cell of the display is where the cursor goes when it is asked to. -/
theorem perform_moveTo
    (display : Display)
    (place : ScreenVector)
    (inWidth : place.x.toNat < display.width)
    (inHeight : place.y.toNat < display.height)
    (width : display.width ≤ 0xffff)
    (height : display.height ≤ 0xffff) :
    display.perform (.moveTo place) =
      { display with
        row := place.y.toNat
        column := place.x.toNat
        isWrapping := false } := by
  have row :
      min ((saturatingSucc place.y).toNat - 1) (display.height - 1) =
        place.y.toNat := by
    rw [saturatingSucc, toNat_saturate]
    omega
  have column :
      min ((saturatingSucc place.x).toNat - 1) (display.width - 1) =
        place.x.toNat := by
    rw [saturatingSucc, toNat_saturate]
    omega
  have obeyed :
      display.perform (.moveTo place) =
        display.place ((saturatingSucc place.y).toNat - 1)
          ((saturatingSucc place.x).toNat - 1) :=
    rfl
  rw [obeyed, Display.place, row, column]

theorem perform_foreground
    (display : Display)
    (color : Color) :
    display.perform (.foreground color) =
      { display with
        style := { display.style with foreground := color } } := by
  cases color <;> rfl

theorem perform_background
    (display : Display)
    (color : Color) :
    display.perform (.background color) =
      { display with
        style := { display.style with background := color } } := by
  cases color <;> rfl

theorem perform_weight
    (display : Display)
    (weight : Weight) :
    display.perform (.weight weight) =
      { display with style := { display.style with weight } } := by
  cases weight <;> rfl

theorem perform_underline
    (display : Display)
    (on : Bool) :
    display.perform (.underline on) =
      { display with
        style := { display.style with underline := on } } := by
  cases on <;> rfl

/-- Setting a style leaves nothing of the one before. -/
theorem carryOut_ofStyle
    (display : Display)
    (style : Style) :
    display.carryOut (Command.ofStyle style) = { display with style } := by
  simp only [Command.ofStyle, carryOut_cons, carryOut_nil,
    perform_foreground, perform_background, perform_weight,
    perform_underline]

theorem perform_home (display : Display) :
    display.perform .home =
      { display with row := 0, column := 0, isWrapping := false } := by
  change display.place 0 0 = _
  rw [place, Nat.zero_min, Nat.zero_min]

/-- The farewell leaves nothing of what a display was before. -/
theorem receive_farewell (display : Display) :
    display.receive (Command.bytesOf Command.farewell) = display.fresh := by
  rw [receive_bytesOf _ _ Command.isPrintable_farewell, Command.farewell,
    carryOut_append, carryOut_ofStyle]
  simp only [carryOut_cons, carryOut_nil, perform_clear, perform_home,
    perform_showCursor]
  rfl

/-- Cells with a text laid over a row, from a column on. -/
def overlay
    (cells : Nat → Nat → Cell)
    (row start : Nat)
    (text : List Char)
    (style : Style) :
    Nat → Nat → Cell :=
  fun atRow atColumn =>
    if atRow = row ∧ start ≤ atColumn then
      (text[atColumn - start]?.map fun char => ⟨char, style⟩).getD
        (cells atRow atColumn)
    else
      cells atRow atColumn

theorem overlay_nil
    (cells : Nat → Nat → Cell)
    (row start : Nat)
    (style : Style) :
    overlay cells row start [] style = cells := by
  ext atRow atColumn
  simp [overlay]

/-- A text is laid over one character after the other. -/
theorem overlay_cons
    (cells : Nat → Nat → Cell)
    (row start : Nat)
    (char : Char)
    (later : List Char)
    (style : Style) :
    overlay cells row start (char :: later) style =
      overlay
        (fun atRow atColumn =>
          if atRow = row ∧ atColumn = start then
            ⟨char, style⟩
          else
            cells atRow atColumn)
        row (start + 1) later style := by
  ext atRow atColumn
  by_cases sameRow : atRow = row
  · rcases Nat.lt_trichotomy atColumn start with left | here | right
    · simp [overlay, sameRow, Nat.not_le.mpr left,
        Nat.ne_of_lt left, show ¬ start + 1 ≤ atColumn by omega]
    · simp [overlay, sameRow, here, show ¬ start + 1 ≤ start by omega]
    · have index : atColumn - start = atColumn - (start + 1) + 1 := by
        omega
      simp [overlay, sameRow, Nat.le_of_lt right, Nat.ne_of_gt right,
        index, show start + 1 ≤ atColumn from right]
  · simp [overlay, sameRow]

/--
Text that fits into the rest of the row is laid over it.  A text that reaches
the last column leaves the cursor there.
-/
theorem foldl_write
    (text : List Char)
    (display : Display)
    (settled : display.isWrapping = false)
    (inside : display.column < display.width)
    (fits : display.column + text.length ≤ display.width) :
    text.foldl write display =
      { display with
        cells :=
          overlay display.cells display.row display.column text
            display.style
        column := min (display.column + text.length) (display.width - 1)
        isWrapping :=
          decide (display.column + text.length = display.width) } := by
  induction text generalizing display with
  | nil =>
    have column :
        min (display.column + 0) (display.width - 1) = display.column := by
      omega
    have unfilled : decide (display.column + 0 = display.width) = false :=
      decide_eq_false (by omega)
    simp only [List.foldl_nil, List.length_nil, overlay_nil, column, unfilled]
    rw [← settled]
  | cons char later ih =>
    rw [List.length_cons] at fits
    rw [List.foldl_cons, write, settled, if_neg Bool.false_ne_true]
    by_cases last : display.column + 1 < display.width
    · rw [put, if_pos last, ih]
      · simp only [overlay_cons, List.length_cons, Nat.add_assoc,
          Nat.add_comm 1]
      · exact settled
      · exact last
      · simp only
        omega
    -- In the last column the text has to end, so no row is ever left.
    · have nothing : later = [] :=
        List.eq_nil_of_length_eq_zero (by omega)
      have column :
          min (display.column + 1) (display.width - 1) =
            display.column := by
        omega
      have full : decide (display.column + 1 = display.width) = true :=
        decide_eq_true (by omega)
      subst nothing
      rw [put, if_neg last, overlay_cons, overlay_nil]
      simp only [List.foldl_nil, List.length_cons, List.length_nil,
        Nat.zero_add, column, full]

theorem perform_text
    (display : Display)
    (text : List Char) :
    display.perform (.text text) = text.foldl write display := by
  rw [perform, Command.signals, List.foldl_map]
  rfl

/-- A text that fits into a row is laid over it from its start. -/
theorem carryOut_line
    (display : Display)
    (y : UInt16)
    (text : List Char)
    (inHeight : y.toNat < display.height)
    (inWidth : 0 < display.width)
    (fits : text.length ≤ display.width)
    (width : display.width ≤ 0xffff)
    (height : display.height ≤ 0xffff) :
    display.carryOut [.moveTo ⟨0, y⟩, .text text] =
      { display with
        cells := overlay display.cells y.toNat 0 text display.style
        row := y.toNat
        column := min text.length (display.width - 1)
        isWrapping := decide (text.length = display.width) } := by
  rw [carryOut_cons, perform_moveTo display ⟨0, y⟩ inWidth inHeight width
    height, carryOut_cons, perform_text, carryOut_nil, foldl_write]
  · simp only [UInt16.toNat_zero, Nat.zero_add]
  · rfl
  · exact inWidth
  · simpa using fits

end Display

end TerminalEditor
