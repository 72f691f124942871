import OnePass.Text.Blank
import OnePass.Text.DecimalDigit

/-!
# Integers in text

The numerals that settings and options accept: an optional sign and decimal digits of any script,
with single underscores between digits and blanks around the whole.
-/

namespace OnePass.Text

/-- The blanks that may stand around a numeral: all but the information separators. -/
def isNumeralBlank (c : Char) : Bool :=
  isBlank c && !(decide (0x1C ≤ c.toNat) && decide (c.toNat ≤ 0x1F))

/-- The most digits a numeral may have, leading zeros included. -/
def maxDigits : Nat := 4300

/-- The values of the digits that follow a digit: each may have an underscore in front of it. -/
def moreDigits? : Text → Option (List Nat)
  | [] => some []
  | '_' :: c :: s => do
    let d ← digitValue? c
    let ds ← moreDigits? s
    return d :: ds
  | c :: s => do
    let d ← digitValue? c
    let ds ← moreDigits? s
    return d :: ds

/-- The number written by an unsigned numeral. -/
def natural? : Text → Option Nat
  | [] => none
  | c :: s => do
    let d ← digitValue? c
    let ds ← moreDigits? s
    if maxDigits ≤ ds.length then none
    else return ds.foldl (fun n d => 10 * n + d) d

/-- The integer that a text denotes, if it is a numeral. -/
def integer? (s : Text) : Option Int :=
  let trimmed := ((s.dropWhile isNumeralBlank).reverse.dropWhile isNumeralBlank).reverse
  match trimmed with
  | '-' :: digits => (natural? digits).map fun n => -(n : Int)
  | '+' :: digits => (natural? digits).map Int.ofNat
  | digits => (natural? digits).map Int.ofNat

end OnePass.Text
