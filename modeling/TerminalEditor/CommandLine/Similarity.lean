/-!
# Similarity of words

The Jaro similarity of two words is the mean of three parts: how much of each
word is matched in the other one, and how much of the matched part is in
order.  A letter matches an equal letter that is not matched yet and stands at
most half the longer word's length away, less one.  Similarities are compared
as exact fractions.
-/

namespace TerminalEditor.Similarity

/-- A fraction of two counts. -/
structure Fraction where
  numerator : Nat
  denominator : Nat
  deriving DecidableEq, Repr

/-- Whether one fraction is greater than another. -/
def Fraction.exceeds (left right : Fraction) : Bool :=
  right.numerator * left.denominator < left.numerator * right.denominator

/-- How far apart matching letters may stand. -/
def reach (left right : List Char) : Nat :=
  max left.length right.length / 2 - 1

/-- The index of the first free match of a letter, among indexed letters. -/
def match?
    (distance index : Nat)
    (letter : Char)
    (free : List (Char × Nat)) :
    Option Nat :=
  (free.find? fun entry =>
    entry.1 = letter && index ≤ entry.2 + distance &&
      entry.2 ≤ index + distance).map (·.2)

/--
The letters that find a match, in order, and the indexed letters that stay
free.
-/
def matched
    (distance : Nat) :
    List (Char × Nat) → List (Char × Nat) → List Char × List (Char × Nat)
  | [], free => ([], free)
  | (letter, index) :: later, free =>
    match match? distance index letter free with
    | none => matched distance later free
    | some found =>
      let others :=
        matched distance later (free.filter fun entry => entry.2 != found)
      (letter :: others.1, others.2)

/-- The similarity of two words. -/
def jaro (left right : List Char) : Fraction :=
  if left.isEmpty ∧ right.isEmpty then
    ⟨1, 1⟩
  else
    let fromLeft :=
      matched (reach left right) left.zipIdx right.zipIdx
    let fromRight :=
      (right.zipIdx.filter (! fromLeft.2.contains ·)).map (·.1)
    let count := fromLeft.1.length
    let displaced :=
      ((fromLeft.1.zip fromRight).filter fun pair =>
        pair.1 != pair.2).length / 2
    if count = 0 then
      ⟨0, 1⟩
    else
      { numerator :=
          count * count * right.length + count * count * left.length +
            (count - displaced) * left.length * right.length
        denominator := 3 * count * left.length * right.length }

/-- How similar a word must be to be worth a suggestion. -/
def threshold : Fraction :=
  ⟨7, 10⟩

/--
The candidate most similar to a word, if one is similar enough; of equally
similar ones, the last.
-/
def best?
    (word : List Char)
    (candidates : List (List Char)) :
    Option (List Char) :=
  (candidates.foldl
    (fun best candidate =>
      let score := jaro word candidate
      let least := best.elim threshold (·.1)
      if score.exceeds least ||
          (best.isSome && !least.exceeds score) then
        some (score, candidate)
      else
        best)
    (none : Option (Fraction × List Char))).map (·.2)

end TerminalEditor.Similarity
