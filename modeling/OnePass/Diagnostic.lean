import OnePass.Text.Basic

/-!
# Diagnostics

What can be wrong with a program text, and how it is reported: a headline with the place and the
cause, the source line under it, and a hint at a remedy.
-/

namespace OnePass

structure Location where
  file : Text
  line : Int
deriving DecidableEq, Repr

def Location.toText (l : Location) : Text := l.file ++ ":" ++ Text.ofInt l.line

/-- What is wrong. -/
inductive Cause where
  /-- A fault stated in words, with a hint of its own. -/
  | general (message : Text) (hint : Option Text)
  /-- The source cannot be read. -/
  | unreadable (file reason : Text)
  /-- A raw line reaches the limit on its length. -/
  | lineTooLong (length limit : Int)
  /-- A line that is not of the required form, stated in words. -/
  | malformed (message : Text) (hint : Option Text)
  /-- A label that is declared already, and where. -/
  | duplicateLabel (name : Text) (first : Option Location)
  /-- A mnemonic that no handler is known for, and keywords that look like it. -/
  | unknownMnemonic (mnemonic : Text) (similar : List Text)
  /-- An operand without a mnemonic to take it. -/
  | strayOperand (operand : Text)
deriving DecidableEq, Repr

namespace Cause

/-- What a label without a name is reported as. -/
def emptyLabel : Cause := .malformed "empty label name" none

/-- A name between single quotes, as it is. -/
def named (name : Text) : Text := "'" ++ name ++ "'"

def message : Cause → Text
  | .general message _ => message
  | .unreadable file reason => "cannot read " ++ named file ++ ": " ++ reason
  | .lineTooLong length limit =>
    "line too long: " ++ Text.ofInt length ++ " characters (limit is " ++ Text.ofInt limit ++ ")"
  | .malformed message _ => message
  | .duplicateLabel name _ => "duplicate label " ++ named name
  | .unknownMnemonic mnemonic _ => "unknown mnemonic " ++ named mnemonic
  | .strayOperand operand =>
    "internal failure: operand " ++ named operand ++ " without mnemonic"

/-- The hint that goes with a cause. At most three similar keywords are offered. -/
def hint : Cause → Option Text
  | .general _ hint => hint
  | .malformed _ hint => hint
  | .lineTooLong _ _ => some "split the line or raise --max-line-length"
  | .duplicateLabel name (some first) =>
    some (named name ++ " was first defined at " ++ first.toText)
  | .unknownMnemonic _ (k :: ks) =>
    some ("did you mean " ++ Text.join ", " (((k :: ks).take 3).map named) ++ "?")
  | _ => none

end Cause

/-- A fault in a source: its cause, its place and the line that shows it. -/
structure Diagnostic where
  cause : Cause
  location : Option Location := none
  sourceLine : Option Text := none
deriving DecidableEq, Repr

namespace Diagnostic

def headline (d : Diagnostic) : Text :=
  match d.location with
  | some l => l.toText ++ ": error: " ++ d.cause.message
  | none => "error: " ++ d.cause.message

/-- The report of a diagnostic: the headline, the source line indented if there is one, and the
hint unless it is empty. -/
def report (d : Diagnostic) : Text :=
  let shown := match d.sourceLine with
    | some line => ["    " ++ line]
    | none => []
  let hinted := match d.cause.hint with
    | none | some [] => []
    | some hint => ["hint: " ++ hint]
  Text.join "\n" (d.headline :: shown ++ hinted)

end Diagnostic

end OnePass
