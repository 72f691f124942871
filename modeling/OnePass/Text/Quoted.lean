import OnePass.Text.Printable

/-!
# Quoted texts

Messages show a piece of input between quotes with everything that cannot be printed escaped, so
that the quoted form is a single line and tells the text apart from every other.
-/

namespace OnePass.Text

/-- The lowest `width` hexadecimal digits of a number, in lower case. -/
def hexDigits (width n : Nat) : Text :=
  let digits := Nat.toDigits 16 n
  List.replicate (width - digits.length) '0' ++ digits

/-- A character given by its code point: two hexadecimal digits after x, four after u or eight after
U, whichever is the shortest that holds it. -/
def codePointEscape (c : Char) : Text :=
  if c.toNat < 0x100 then '\\' :: 'x' :: hexDigits 2 c.toNat
  else if c.toNat < 0x10000 then '\\' :: 'u' :: hexDigits 4 c.toNat
  else '\\' :: 'U' :: hexDigits 8 c.toNat

/-- One character inside quotes of the given kind. -/
def quotedChar (quote c : Char) : Text :=
  if c = quote ∨ c = '\\' then ['\\', c]
  else if c = '\t' then ['\\', 't']
  else if c = '\n' then ['\\', 'n']
  else if c = '\r' then ['\\', 'r']
  else if isPrintable c then [c]
  else codePointEscape c

/-- The quote around a text: single, unless the text holds single quotes and no double ones. -/
def quoteFor (s : Text) : Char :=
  if '\'' ∈ s ∧ '"' ∉ s then '"' else '\''

/-- A text between quotes, with the quote, the backslash and unprintable characters escaped. -/
def quoted (s : Text) : Text :=
  quoteFor s :: s.flatMap (quotedChar (quoteFor s)) ++ [quoteFor s]

example : quoted ['a', '\t', 'b'] = ("'a\\tb'" : Text) := by decide

end OnePass.Text
