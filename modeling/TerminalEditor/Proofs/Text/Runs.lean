import TerminalEditor.Text.Fields

/-!
# The fields around a place in a list

A place in a list lies inside one field.  The fields before it are closed by a
separator each, and the fields after it are opened by one each.  `Cut` names
these parts, and `fields_eq` reads the fields of the whole list off them.
-/

namespace TerminalEditor.Text

variable {α : Type} (separator : α)

/-- One of some runs, with the ones before it and the ones after it. -/
theorem exists_split
    {runs : List (List α)}
    {index : Nat}
    (inside : index < runs.length) :
    ∃ above run beyond,
      runs = above ++ run :: beyond ∧ above.length = index := by
  refine
    ⟨runs.take index, runs[index], runs.drop (index + 1), ?_, ?_⟩
  · rw [← List.drop_eq_getElem_cons inside, List.take_append_drop]
  · rw [List.length_take]
    omega

/-- Some runs with a separator after each of them. -/
def closed (runs : List (List α)) : List α :=
  runs.flatMap (· ++ [separator])

/-- Some runs with a separator before each of them. -/
def opened (runs : List (List α)) : List α :=
  runs.flatMap (separator :: ·)

@[simp]
theorem closed_nil : closed separator [] = [] :=
  rfl

@[simp]
theorem closed_cons
    (run : List α)
    (runs : List (List α)) :
    closed separator (run :: runs) =
      run ++ separator :: closed separator runs := by
  simp [closed]

@[simp]
theorem closed_append
    (first second : List (List α)) :
    closed separator (first ++ second) =
      closed separator first ++ closed separator second :=
  List.flatMap_append

theorem map_closed {β : Type}
    (image : α → β)
    (runs : List (List α)) :
    (closed separator runs).map image =
      closed (image separator) (runs.map (·.map image)) := by
  rw [closed, closed, List.map_flatMap, List.flatMap_map]
  simp only [List.map_append, List.map_singleton]

@[simp]
theorem opened_nil : opened separator [] = [] :=
  rfl

@[simp]
theorem opened_cons
    (run : List α)
    (runs : List (List α)) :
    opened separator (run :: runs) =
      separator :: (run ++ opened separator runs) :=
  rfl

@[simp]
theorem opened_append
    (first second : List (List α)) :
    opened separator (first ++ second) =
      opened separator first ++ opened separator second :=
  List.flatMap_append

/-- Joined runs are opened after the first one. -/
theorem intercalate_cons
    (run : List α)
    (runs : List (List α)) :
    [separator].intercalate (run :: runs) =
      run ++ opened separator runs := by
  induction runs generalizing run with
  | nil => simp
  | cons next runs ih =>
    rw [List.intercalate_cons_cons, ih next]
    simp

/-- Joined runs are closed before one of them and opened after it. -/
theorem intercalate_append_cons
    (upper : List (List α))
    (run : List α)
    (lower : List (List α)) :
    [separator].intercalate (upper ++ run :: lower) =
      closed separator upper ++ run ++ opened separator lower := by
  induction upper with
  | nil => exact intercalate_cons separator run lower
  | cons first upper ih =>
    rw [List.cons_append,
      List.intercalate_cons_of_ne_nil (by simp), ih]
    simp

/-- It makes no difference to the length on which side the separators are. -/
theorem length_opened
    (runs : List (List α)) :
    (opened separator runs).length = (closed separator runs).length := by
  induction runs with
  | nil => rfl
  | cons run runs ih =>
    simp only [opened_cons, closed_cons, List.length_append,
      List.length_cons, ih]
    omega

variable {separator} [DecidableEq α]

/-- A run without separators is one field. -/
theorem fields_of_free
    {run : List α}
    (free : separator ∉ run) :
    fields separator run = [run] := by
  induction run with
  | nil => rfl
  | cons item rest ih =>
    rw [List.mem_cons, not_or] at free
    have different : item ≠ separator := by
      intro same
      exact free.1 same.symm
    rw [fields, if_neg different, ih free.2]

/-- The first separator ends the first field. -/
theorem fields_append_separator
    {run : List α}
    (free : separator ∉ run)
    (rest : List α) :
    fields separator (run ++ separator :: rest) =
      run :: fields separator rest := by
  induction run with
  | nil => simp [fields]
  | cons item tail ih =>
    rw [List.mem_cons, not_or] at free
    have different : item ≠ separator := by
      intro same
      exact free.1 same.symm
    rw [List.cons_append, fields, if_neg different, ih free.2]

theorem fields_closed_append
    {runs : List (List α)}
    (free : ∀ run ∈ runs, separator ∉ run)
    (rest : List α) :
    fields separator (closed separator runs ++ rest) =
      runs ++ fields separator rest := by
  induction runs with
  | nil => rfl
  | cons run runs ih =>
    rw [List.forall_mem_cons] at free
    rw [closed_cons, List.append_assoc, List.cons_append,
      fields_append_separator free.1, ih free.2, List.cons_append]

theorem fields_append_opened
    {run : List α}
    {runs : List (List α)}
    (free : separator ∉ run)
    (othersFree : ∀ other ∈ runs, separator ∉ other) :
    fields separator (run ++ opened separator runs) = run :: runs := by
  induction runs generalizing run with
  | nil => simpa using fields_of_free free
  | cons next runs ih =>
    rw [List.forall_mem_cons] at othersFree
    rw [opened_cons, fields_append_separator free,
      ih othersFree.1 othersFree.2]

theorem count_closed
    {runs : List (List α)}
    (free : ∀ run ∈ runs, separator ∉ run) :
    (closed separator runs).count separator = runs.length := by
  induction runs with
  | nil => rfl
  | cons run runs ih =>
    rw [List.forall_mem_cons] at free
    rw [closed_cons, List.count_append,
      List.count_eq_zero_of_not_mem free.1, List.count_cons_self,
      ih free.2, Nat.zero_add, List.length_cons]

theorem count_opened
    {runs : List (List α)}
    (free : ∀ run ∈ runs, separator ∉ run) :
    (opened separator runs).count separator = runs.length := by
  induction runs with
  | nil => rfl
  | cons run runs ih =>
    rw [List.forall_mem_cons] at free
    rw [opened_cons, List.count_cons_self, List.count_append,
      List.count_eq_zero_of_not_mem free.1, ih free.2, Nat.zero_add,
      List.length_cons]

/-- There is one field more than there are separators. -/
theorem length_fields
    (items : List α) :
    (fields separator items).length = items.count separator + 1 := by
  induction items with
  | nil => rfl
  | cons item rest ih =>
    rw [fields]
    split
    · next same =>
      rw [same, List.count_cons_self, List.length_cons, ih]
    · next different =>
      rw [List.count_cons_of_ne different]
      split
      · next none => exact absurd none (fields_ne_nil separator rest)
      · next found =>
        rw [found] at ih
        exact ih

/-- No field contains a separator. -/
theorem not_mem_of_mem_fields
    (items : List α)
    {run : List α}
    (member : run ∈ fields separator items) :
    separator ∉ run := by
  induction items generalizing run with
  | nil =>
    rw [fields, List.mem_singleton] at member
    simp [member]
  | cons item rest ih =>
    rw [fields] at member
    split at member
    · rcases List.mem_cons.mp member with first | later
      · simp [first]
      · exact ih later
    · next different =>
      split at member
      · next none => exact absurd none (fields_ne_nil separator rest)
      · next field others found =>
        rw [found] at ih
        rcases List.mem_cons.mp member with first | later
        · have fieldFree := ih List.mem_cons_self
          rw [first, List.mem_cons, not_or]
          exact ⟨fun same => different same.symm, fieldFree⟩
        · exact ih (List.mem_cons_of_mem _ later)

/--
The runs around a place between two lists: the ones above it, the two parts of
the one it lies in, and the ones below it.
-/
structure Cut
    (separator : α)
    (before after : List α)
    (upper : List (List α))
    (left right : List α)
    (lower : List (List α)) : Prop where
  before_eq : before = closed separator upper ++ left
  after_eq : after = right ++ opened separator lower
  upperFree : ∀ run ∈ upper, separator ∉ run
  leftFree : separator ∉ left
  rightFree : separator ∉ right
  lowerFree : ∀ run ∈ lower, separator ∉ run

/-- There is a cut at every place. -/
theorem exists_cut
    (separator : α)
    (before after : List α) :
    ∃ upper left right lower,
      Cut separator before after upper left right lower := by
  obtain ⟨upper, left, closing⟩ :
      ∃ upper left, fields separator before = upper ++ [left] :=
    ⟨_, _, (List.dropLast_concat_getLast
      (fields_ne_nil separator before)).symm⟩
  rcases List.exists_cons_of_ne_nil (fields_ne_nil separator after) with
    ⟨right, lower, opening⟩
  refine ⟨upper, left, right, lower, ?_, ?_, ?_, ?_, ?_, ?_⟩
  · have joined := intercalate_fields separator before
    rw [closing, intercalate_append_cons] at joined
    simpa using joined.symm
  · have joined := intercalate_fields separator after
    rw [opening, ← List.nil_append (right :: lower),
      intercalate_append_cons] at joined
    simpa using joined.symm
  · intro run member
    apply not_mem_of_mem_fields before
    rw [closing]
    exact List.mem_append_left _ member
  · apply not_mem_of_mem_fields before
    simp [closing]
  · apply not_mem_of_mem_fields after
    simp [opening]
  · intro run member
    apply not_mem_of_mem_fields after
    rw [opening]
    exact List.mem_cons_of_mem _ member

namespace Cut

variable
    {before after left right : List α}
    {upper lower : List (List α)}

theorem fields_before
    (cut : Cut separator before after upper left right lower) :
    fields separator before = upper ++ [left] := by
  rw [cut.before_eq, fields_closed_append cut.upperFree,
    fields_of_free cut.leftFree]

/-- The place divides one field; all others are above or below it. -/
theorem fields_eq
    (cut : Cut separator before after upper left right lower) :
    fields separator (before ++ after) =
      upper ++ (left ++ right) :: lower := by
  have free : separator ∉ left ++ right := by
    rw [List.mem_append, not_or]
    exact ⟨cut.leftFree, cut.rightFree⟩
  rw [cut.before_eq, cut.after_eq, List.append_assoc,
    ← List.append_assoc left, fields_closed_append cut.upperFree,
    fields_append_opened free cut.lowerFree]

/-- The separators before the place close the runs above it. -/
theorem count_before
    (cut : Cut separator before after upper left right lower) :
    before.count separator = upper.length := by
  rw [cut.before_eq, List.count_append, count_closed cut.upperFree,
    List.count_eq_zero_of_not_mem cut.leftFree, Nat.add_zero]

/-- Reading back from the place to the last separator gives its left part. -/
theorem takeWhile_reverse_before
    (cut : Cut separator before after upper left right lower) :
    before.reverse.takeWhile (· != separator) = left.reverse := by
  have leftOnly : ∀ item ∈ left.reverse, (item != separator) = true := by
    intro item member
    rw [List.mem_reverse] at member
    apply bne_iff_ne.mpr
    rintro rfl
    exact cut.leftFree member
  rw [cut.before_eq, List.reverse_append,
    List.takeWhile_append_of_pos leftOnly]
  rcases List.eq_nil_or_concat upper with none | ⟨above, run, some⟩
  · simp [none]
  · simp [some]

/-- Reading on from the place to the next separator gives its right part. -/
theorem takeWhile_after
    (cut : Cut separator before after upper left right lower) :
    after.takeWhile (· != separator) = right := by
  have rightOnly : ∀ item ∈ right, (item != separator) = true := by
    intro item member
    apply bne_iff_ne.mpr
    rintro rfl
    exact cut.rightFree member
  rw [cut.after_eq, List.takeWhile_append_of_pos rightOnly]
  cases lower with
  | nil => simp
  | cons run lower => simp

end Cut

/-- The fields of a list, cut at a place inside one of them. -/
theorem cut_of_fields
    {items run : List α}
    {upper lower : List (List α)}
    (found : fields separator items = upper ++ run :: lower)
    (count : Nat) :
    Cut separator
      (closed separator upper ++ run.take count)
      (run.drop count ++ opened separator lower)
      upper (run.take count) (run.drop count) lower := by
  have free : ∀ other ∈ upper ++ run :: lower, separator ∉ other := by
    intro other member
    rw [← found] at member
    exact not_mem_of_mem_fields _ member
  have runFree := free run (by simp)
  exact
    { before_eq := rfl
      after_eq := rfl
      upperFree := fun other member =>
        free other (List.mem_append_left _ member)
      leftFree := fun member => runFree (List.mem_of_mem_take member)
      rightFree := fun member => runFree (List.mem_of_mem_drop member)
      lowerFree := fun other member =>
        free other
          (List.mem_append_right _ (List.mem_cons_of_mem _ member)) }

/-- The list itself, put together from its fields. -/
theorem eq_of_fields
    {items run : List α}
    {upper lower : List (List α)}
    (found : fields separator items = upper ++ run :: lower) :
    items = closed separator upper ++ run ++ opened separator lower := by
  rw [← intercalate_append_cons, ← found, intercalate_fields]

/-- The fields of a list are the free runs of which it is joined. -/
theorem fields_eq_iff
    {items run : List α}
    {runs : List (List α)} :
    fields separator items = run :: runs ↔
      items = [separator].intercalate (run :: runs) ∧
        ∀ field ∈ run :: runs, separator ∉ field := by
  constructor
  · intro found
    rw [← found]
    exact
      ⟨(intercalate_fields separator items).symm,
        fun _ member => not_mem_of_mem_fields items member⟩
  · rintro ⟨rfl, free⟩
    rw [List.forall_mem_cons] at free
    rw [intercalate_cons, fields_append_opened free.1 free.2]

/-- What is in a field is in the list. -/
theorem mem_of_mem_fields
    {items run : List α}
    {item : α}
    (member : run ∈ fields separator items)
    (inside : item ∈ run) :
    item ∈ items := by
  rcases List.append_of_mem member with ⟨upper, lower, found⟩
  rw [eq_of_fields found]
  exact List.mem_append_left _ (List.mem_append_right _ inside)

end TerminalEditor.Text
