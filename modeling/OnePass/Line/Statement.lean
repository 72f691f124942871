import OnePass.Line.Comment

/-!
# Statements

The three fields of a line: a label, a mnemonic and an operand, each of which may be missing. A
first field that ends in the label mark declares a label. The operand is all that follows the
mnemonic.
-/

namespace OnePass

structure Statement where
  label : Option Text := none
  mnemonic : Option Text := none
  operand : Option Text := none
deriving DecidableEq, Repr

namespace Statement

def isBlank (s : Statement) : Bool := s.label.isNone && s.mnemonic.isNone && s.operand.isNone

/-- A text as a field, which is missing if the text is empty. -/
def field? : Text → Option Text
  | [] => none
  | s => some s

/-- The name in a field that ends in the label mark. An empty mark ends every field and leaves no
name. -/
def labelName (mark field : Text) : Text :=
  if mark = [] then [] else field.take (field.length - mark.length)

/-- The fields of a text; `none` if its first field is a label mark without a name. -/
def parse? (mark text : Text) : Option Statement :=
  match Text.nextField text with
  | none => some {}
  | some (first, rest) =>
    if mark <:+ first then
      match field? (labelName mark first), Text.nextField rest with
      | none, _ => none
      | label, none => some { label }
      | label, some (mnemonic, operand) =>
        some { label, mnemonic := some mnemonic, operand := field? operand }
    else some { mnemonic := some first, operand := field? rest }

def parse (config : Config) (location : Location) (text : Text) : Except Diagnostic Statement :=
  match parse? config.labelMark text with
  | some s => .ok s
  | none => .error ⟨.emptyLabel, some location, some text⟩

end Statement

end OnePass
