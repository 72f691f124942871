import OnePass.Text.Basic

/-!
# Paths

A path in its normal form: the names on the way without empty ones and single dots. Two dots are
kept, and so is a pair of slashes at the start; any other number of slashes there counts as one.
-/

namespace OnePass

/-- A path: the slashes it starts with and the names on the way. -/
structure Path where
  root : Text := []
  names : List Text := []
deriving DecidableEq, Repr

namespace Path

/-- The normal form of a path given as a text. -/
def ofText (s : Text) : Path where
  root := match s.takeWhile (· == '/') with
    | [] => []
    | ['/', '/'] => ['/', '/']
    | _ => ['/']
  names := (Text.pieces '/' s).filter fun n => n ≠ [] ∧ n ≠ ['.']

/-- A path as a text; the empty path is a single dot. -/
def toText (p : Path) : Text :=
  if p.root = [] ∧ p.names = [] then ['.'] else p.root ++ Text.join ['/'] p.names

end Path

end OnePass
