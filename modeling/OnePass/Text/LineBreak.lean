import OnePass.Text.Basic

/-!
# Lines

Two rules cut a text into lines. The lines of a source end after a line feed, after a carriage
return, or after the pair of them, and keep that ending. The lines of a diagnostic end at any of
ten line breaks and lose it.
-/

namespace OnePass.Text

/-- The lines of a source, each with its ending. Only line feed, carriage return and the pair of
the two end a line; the last line may lack an ending. -/
def sourceLines : Text → List Text
  | [] => []
  | '\r' :: '\n' :: s => ['\r', '\n'] :: sourceLines s
  | c :: s =>
    if c = '\n' ∨ c = '\r' then [c] :: sourceLines s
    else match sourceLines s with
      | [] => [[c]]
      | l :: ls => (c :: l) :: ls

/-- The lines of a source of which more is to come, and the text held back. A line is certain once
its line feed is there; after a carriage return at the very end a line feed may still follow. -/
def completeLines (s : Text) : List Text × Text :=
  if s.getLast? = some '\n' then (sourceLines s, [])
  else ((sourceLines s).dropLast, (sourceLines s).getLast?.getD [])

/-- Whether a character ends a line of a diagnostic. -/
def isLineBreak (c : Char) : Bool :=
  c = '\n' || c = '\r' || c = '\x0b' || c = '\x0c' || c = '\x1c' || c = '\x1d' || c = '\x1e' ||
    c = '\u0085' || c = '\u2028' || c = '\u2029'

/-- The lines of a diagnostic, without their endings. A text that ends in a line break has no line
after it. -/
def displayLines : Text → List Text
  | [] => []
  | '\r' :: '\n' :: s => [] :: displayLines s
  | c :: s =>
    if isLineBreak c then [] :: displayLines s
    else match displayLines s with
      | [] => [[c]]
      | l :: ls => (c :: l) :: ls

end OnePass.Text
