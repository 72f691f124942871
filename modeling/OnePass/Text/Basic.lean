/-!
# Texts

Source lines, names, messages and everything the program prints are texts. A text is the list of
its characters, so lengths, widths and positions count characters. This module holds what the
other modules need to build texts: decimal numbers, padding, joining and splitting.
-/

namespace OnePass

/-- A text, as the list of its characters. -/
abbrev Text := List Char

/-- A string literal stands for the list of its characters. -/
instance : Coe String Text := ⟨String.toList⟩

namespace Text

/-- The decimal digits of a natural number, most significant first. -/
def ofNat (n : Nat) : Text := Nat.toDigits 10 n

/-- An integer in decimal, a minus sign in front of a negative one. -/
def ofInt : Int → Text
  | .ofNat n => ofNat n
  | .negSucc n => '-' :: ofNat (n + 1)

/-- Fills up with spaces on the right to at least `width` characters. -/
def padRight (width : Nat) (s : Text) : Text :=
  s ++ List.replicate (width - s.length) ' '

/-- Fills up with spaces on the left to at least `width` characters. -/
def padLeft (width : Nat) (s : Text) : Text :=
  List.replicate (width - s.length) ' ' ++ s

/-- An integer in decimal, filled up with zeros after its sign to at least `width` characters; the
sign counts in the width. -/
def zeroPadded (width : Nat) : Int → Text
  | .ofNat n => List.replicate (width - (ofNat n).length) '0' ++ ofNat n
  | .negSucc n => '-' :: (List.replicate (width - 1 - (ofNat (n + 1)).length) '0' ++ ofNat (n + 1))

/-- Joins texts with a separator between neighbours. -/
def join (separator : Text) : List Text → Text
  | [] => []
  | [s] => s
  | s :: rest => s ++ separator ++ join separator rest

/-- The pieces between the occurrences of a separator; a text without it is its own single piece. -/
def pieces (separator : Char) : Text → List Text
  | [] => [[]]
  | c :: s =>
    if c = separator then [] :: pieces separator s
    else match pieces separator s with
      | [] => [[c]]
      | p :: ps => (c :: p) :: ps

end Text

end OnePass
