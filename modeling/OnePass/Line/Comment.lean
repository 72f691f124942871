import OnePass.Config
import OnePass.Diagnostic

/-!
# Comments

A comment starts at the comment mark and runs to the end of the line, unless the mark stands inside
a quoted span. Inside a span the escape mark deprives the next character of its meaning. A span
that is not closed runs to the end of the line.
-/

namespace OnePass

/-- Where the scan of a line stands. -/
inductive Scan where
  | outside
  | inside
  /-- Inside a quoted span, right after an escape mark. -/
  | escaped
deriving DecidableEq, Repr

namespace Scan

/-- Where the scan stands after one more character; `none` if the character starts a comment. -/
def next (config : Config) (c : Char) : Scan → Option Scan
  | .outside =>
    if [c] = config.quoteMark then some .inside
    else if [c] = config.commentMark then none
    else some .outside
  | .inside =>
    if [c] = config.escapeMark then some .escaped
    else if [c] = config.quoteMark then some .outside
    else some .inside
  | .escaped => some .inside

/-- The part of a text before its comment. -/
def code (config : Config) : Scan → Text → Text
  | _, [] => []
  | s, c :: rest =>
    match s.next config c with
    | some s' => c :: code config s' rest
    | none => []

/-- Where the scan stands at the end of a text; `none` if a comment starts on the way. -/
def end? (config : Config) : Scan → Text → Option Scan
  | s, [] => some s
  | s, c :: rest =>
    match s.next config c with
    | some s' => end? config s' rest
    | none => none

end Scan

namespace Line

/-- A raw line without its comment and without the blanks at its end. -/
def strip (config : Config) (raw : Text) : Text :=
  Text.trimRight (Scan.outside.code config raw)

def isUnterminated (config : Config) (raw : Text) : Bool :=
  match Scan.outside.end? config raw with
  | some .inside | some .escaped => true
  | _ => false

/-- The text of a raw line, which must be shorter than the limit; its ending counts. -/
def normalize (config : Config) (location : Location) (raw : Text) : Except Diagnostic Text :=
  if config.lineLimit ≤ raw.length then
    .error ⟨.lineTooLong raw.length config.lineLimit, some location, none⟩
  else .ok (strip config raw)

end Line

end OnePass
