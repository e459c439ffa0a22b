/-!
# Fields between separators

Splitting a list at every separator gives one field more than there are
separators.  The fields joined by separators are the list again.
-/

namespace TerminalEditor.Text

/-- The runs between the separators of a list, in order. -/
def fields
    {α : Type} [DecidableEq α]
    (separator : α) :
    List α → List (List α)
  | [] => [[]]
  | item :: rest =>
    if item = separator then
      [] :: fields separator rest
    else
      match fields separator rest with
      | [] => [[item]]
      | field :: others => (item :: field) :: others

/-- There is always a first field. -/
theorem fields_ne_nil
    {α : Type} [DecidableEq α]
    (separator : α)
    (items : List α) :
    fields separator items ≠ [] := by
  cases items with
  | nil => simp [fields]
  | cons item rest =>
    unfold fields
    split
    · simp
    · split <;> simp

/-- Joining the fields gives the list back. -/
theorem intercalate_fields
    {α : Type} [DecidableEq α]
    (separator : α)
    (items : List α) :
    [separator].intercalate (fields separator items) = items := by
  induction items with
  | nil => rfl
  | cons item rest hypothesis =>
    have present := fields_ne_nil separator rest
    unfold fields
    split
    · next same =>
      subst same
      cases split : fields item rest with
      | nil => exact absurd split present
      | cons field others =>
        rw [split] at hypothesis
        rw [List.intercalate_cons_cons, hypothesis]
        rfl
    · cases split : fields separator rest with
      | nil => exact absurd split present
      | cons field others =>
        rw [split] at hypothesis
        cases others with
        | nil => simpa using hypothesis
        | cons second others =>
          simp only [List.intercalate_cons_cons, List.cons_append] at hypothesis ⊢
          rw [hypothesis]

end TerminalEditor.Text
