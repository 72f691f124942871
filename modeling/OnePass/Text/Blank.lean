import OnePass.Text.Basic

/-!
# Blank characters

The characters that separate the fields of a line: the white space of Unicode together with the
four information separators U+001C to U+001F. Zero-width characters are not blank.
-/

namespace OnePass.Text

/-- Closed ranges of code points, ascending and apart. -/
def blankRanges : List (Nat × Nat) :=
  [(0x09, 0x0D), (0x1C, 0x20), (0x85, 0x85), (0xA0, 0xA0), (0x1680, 0x1680), (0x2000, 0x200A),
   (0x2028, 0x2029), (0x202F, 0x202F), (0x205F, 0x205F), (0x3000, 0x3000)]

def inRanges (ranges : List (Nat × Nat)) (n : Nat) : Bool :=
  ranges.any fun r => decide (r.1 ≤ n) && decide (n ≤ r.2)

/-- Whether a character separates fields. -/
def isBlank (c : Char) : Bool := inRanges blankRanges c.toNat

def trimRight (s : Text) : Text := (s.reverse.dropWhile isBlank).reverse

/-- The first field of a text, without the blanks before it, and what follows it, without the
blanks between; `none` if the text holds nothing but blanks. What follows keeps the blanks at its
end, and is empty if only blanks follow. -/
def nextField (s : Text) : Option (Text × Text) :=
  match s.dropWhile isBlank with
  | [] => none
  | c :: t =>
    some (c :: t.takeWhile (fun d => !isBlank d),
      (t.dropWhile fun d => !isBlank d).dropWhile isBlank)

end OnePass.Text
