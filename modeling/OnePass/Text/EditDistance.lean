import OnePass.Text.Basic

/-!
# Edit distance

The least number of insertions, deletions and substitutions of single characters that turn one text
into another, computed a row at a time. A row lists the distances from one text to every beginning
of another, the shortest first. It is made from the row of the same text without its last
character, so that two rows are held at a time.
-/

namespace OnePass.Text

/-- The rest of the row of a text that ends in `a`, behind the distance `last`: one distance for
each character that is left of the other text, from the row before as far as it is left. -/
def restOfRow (a : Char) (last : Nat) : Text → List Nat → List Nat
  | b :: t, diagonal :: above :: row =>
    let distance := if a = b then diagonal else 1 + min diagonal (min above last)
    distance :: restOfRow a distance t (above :: row)
  | _, _ => []

/-- The row of a text of `n + 1` characters that ends in `a`, from the row of its first `n`. -/
def nextRow (t : Text) (n : Nat) (a : Char) (row : List Nat) : List Nat :=
  (n + 1) :: restOfRow a (n + 1) t row

/-- The row that the row of a text of `n` characters leads to when the given text follows it. -/
def lastRow (t : Text) (n : Nat) (row : List Nat) : Text → List Nat
  | [] => row
  | a :: s => lastRow t (n + 1) (nextRow t n a row) s

/-- The last distance in the last row. -/
def rowDistance (s t : Text) : Nat :=
  (lastRow t 0 (List.range (t.length + 1)) s).getLastD 0

/-- The least number of edits between two texts. The rows are as long as the shorter one. -/
def editDistance (s t : Text) : Nat :=
  if s.length < t.length then rowDistance t s else rowDistance s t

example : editDistance ['m', 'v', 'o'] ['m', 'o', 'v'] = 2 := by decide

end OnePass.Text
