import OnePass.Text.Basic

/-!
# Terminal control sequences

Texts printed as diagnostics lose the sequences that would drive a terminal: an escape character,
an opening bracket, parameter characters, intermediate characters and one final character.
-/

namespace OnePass.Text

/-- Whether a character may stand among the parameters of a control sequence. -/
def isParameter (c : Char) : Bool := decide ('0' ≤ c) && decide (c ≤ '?')

/-- Whether a character may stand between the parameters and the final character. -/
def isIntermediate (c : Char) : Bool := decide (' ' ≤ c) && decide (c ≤ '/')

/-- Whether a character ends a control sequence. -/
def isFinal (c : Char) : Bool := decide ('@' ≤ c) && decide (c ≤ '~')

/-- What follows a control sequence of which the escape character and the bracket have been read;
`none` if the sequence does not end properly. -/
def afterSequence? (s : Text) : Option Text :=
  match (s.dropWhile isParameter).dropWhile isIntermediate with
  | [] => none
  | c :: rest => if isFinal c then some rest else none

theorem length_dropWhile_le (p : Char → Bool) (s : Text) : (s.dropWhile p).length ≤ s.length :=
  (List.dropWhile_sublist p).length_le

/-- A control sequence takes up at least one character after the bracket. -/
theorem length_afterSequence? {s rest : Text} (h : afterSequence? s = some rest) :
    rest.length < s.length := by
  have h₁ := length_dropWhile_le isParameter s
  have h₂ := length_dropWhile_le isIntermediate (s.dropWhile isParameter)
  unfold afterSequence? at h
  split at h
  · contradiction
  · rename_i c t hs
    rw [hs] at h₂
    simp only [List.length_cons] at h₂
    split at h
    · cases h
      omega
    · contradiction

def stripSequences : Text → Text
  | [] => []
  | '\x1b' :: '[' :: s =>
    match _h : afterSequence? s with
    | some rest => stripSequences rest
    | none => '\x1b' :: stripSequences ('[' :: s)
  | c :: s => c :: stripSequences s
termination_by s => s.length
decreasing_by
  · have := length_afterSequence? _h
    simp only [List.length_cons]
    omega
  · simp
  · simp

end OnePass.Text
