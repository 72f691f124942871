import OnePass.Text.Basic

/-!
# Lengths in bytes

The system and some messages measure a text by the number of its bytes in UTF-8, not by its
characters.
-/

namespace OnePass.Text

/-- The number of bytes of a text in UTF-8. -/
def byteLength : Text → Nat
  | [] => 0
  | c :: s => c.utf8Size + byteLength s

/-- The start of a text that has room in a number of bytes. A character that has room only in part
is shown as the replacement character. -/
def clip : Nat → Text → Text
  | _, [] => []
  | 0, _ :: _ => []
  | room + 1, c :: s =>
    if c.utf8Size ≤ room + 1 then c :: clip (room + 1 - c.utf8Size) s else ['\uFFFD']

example : clip 4 ['a', 'é', 'é'] = ['a', 'é', '\uFFFD'] := by decide

end OnePass.Text
