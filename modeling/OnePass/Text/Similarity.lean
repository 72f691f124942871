import OnePass.Text.Basic

/-!
# Similarity of texts

How much two texts have in common, by the matching-blocks rule: take their longest common block
(of several the one that starts first in the first text, then in the second), then do the same to
the left and to the right of it. The similarity is twice the number of matched characters over the
total length.
-/

namespace OnePass.Text

/-- A common block of two texts: where it starts in each, and how long it is. -/
structure Block where
  left : Nat
  right : Nat
  size : Nat

def commonStart : Text → Text → Nat
  | a :: s, b :: t => if a = b then commonStart s t + 1 else 0
  | _, _ => 0

/-- The longest common block of two texts; among equally long ones the first. -/
def longestBlock (s t : Text) : Block :=
  (List.range s.length).foldl (fun best i =>
    (List.range t.length).foldl (fun best j =>
      let size := commonStart (s.drop i) (t.drop j)
      if best.size < size then ⟨i, j, size⟩ else best) best) ⟨0, 0, 0⟩

/-- The number of characters matched by the longest common block and, to either side of it, by the
same rule. -/
def matched (s t : Text) : Nat :=
  match longestBlock s t with
  | ⟨i, j, n⟩ =>
    if _h : 0 < n ∧ i + n ≤ s.length then
      matched (s.take i) (t.take j) + n + matched (s.drop (i + n)) (t.drop (j + n))
    else 0
termination_by s.length
decreasing_by
  · simp only [List.length_take]
    omega
  · simp only [List.length_drop]
    omega

/-- Whether the similarity of two texts is at least three fifths. -/
def isSimilar (s t : Text) : Bool :=
  decide (3 * (s.length + t.length) ≤ 10 * matched s t)

def precedes (s t : Text) : Bool := decide (s < t)

/-- Whether `s` is a better match for `word` than `t`: more similar to it, and on a tie later in the
order of texts. -/
def isBetterMatch (word s t : Text) : Bool :=
  let left := matched s word * (t.length + word.length)
  let right := matched t word * (s.length + word.length)
  decide (right < left) || (left == right && !precedes s t)

/-- At most three of the given texts that are similar to `word`, the best ones, in the order of
texts. -/
def closeMatches (word : Text) (texts : List Text) : List Text :=
  let similar := texts.filter (isSimilar · word)
  let best := (similar.mergeSort (isBetterMatch word)).take 3
  best.mergeSort fun s t => !precedes t s

end OnePass.Text
