import OnePass.Files.Tree
import OnePass.Text.Numeral
import OnePass.Text.Similarity

/-!
# Command-line arguments

Options may stand anywhere among the arguments; two dashes alone end them. A long option takes its
value after an equals sign or from the next argument. Short options may share one dash, and one
that takes a value takes the rest of its argument or the next one. What is not an option is an
operand.
-/

namespace OnePass

inductive Switch where
  | symbols
  | maxLineLength
  | verbose
  | version
  | help
deriving DecidableEq, Repr

namespace Switch

def all : List Switch := [symbols, maxLineLength, verbose, version, help]

def longName : Switch → Text
  | symbols => "--symbols"
  | maxLineLength => "--max-line-length"
  | verbose => "--verbose"
  | version => "--version"
  | help => "--help"

def letter? : Switch → Option Char
  | symbols => some 's'
  | verbose => some 'v'
  | help => some 'h'
  | _ => none

def takesValue : Switch → Bool
  | symbols | maxLineLength => true
  | _ => false

def ofLongName? (name : Text) : Option Switch := all.find? fun s => s.longName = name

def ofLetter? (c : Char) : Option Switch := all.find? fun s => s.letter? = some c

/-- How messages about its value name an option. -/
def display : Switch → Text
  | symbols => "'-s' / '--symbols'"
  | maxLineLength => "'--max-line-length'"
  | s => Text.quoted s.longName

end Switch

inductive ValueError where
  | notInteger (text : Text)
  | notPositive (value : Int)
  | isDirectory (path : Text)
deriving DecidableEq, Repr

def ValueError.message : ValueError → Text
  | .notInteger text => Text.quoted text ++ " is not a valid integer range."
  | .notPositive value => Text.ofInt value ++ " is not in the range x>=1."
  | .isDirectory path => "File " ++ Text.quoted path ++ " is a directory."

/-- Why the arguments are refused. -/
inductive UsageError where
  | noSuchOption (name : Text) (similar : List Text)
  | missingValue (name : Text)
  | unexpectedValue (name : Text)
  | badValue (switch : Switch) (error : ValueError)
deriving DecidableEq, Repr

namespace UsageError

/-- The options offered in place of one that does not exist. -/
def offer : List Text → Text
  | [] => []
  | [name] => " Did you mean " ++ Text.quoted name ++ "?"
  | names => " (Did you mean one of: " ++ Text.join ", " (names.map Text.quoted) ++ "?)"

def message : UsageError → Text
  | .noSuchOption name similar => "No such option " ++ Text.quoted name ++ "." ++ offer similar
  | .missingValue name => "Option " ++ Text.quoted name ++ " requires an argument."
  | .unexpectedValue name => "Option " ++ Text.quoted name ++ " does not take a value."
  | .badValue switch error => "Invalid value for " ++ switch.display ++ ": " ++ error.message

/-- Whether the usage of the program is shown along with the error. -/
def showsUsage : UsageError → Bool
  | .noSuchOption _ _ | .badValue _ _ => true
  | .missingValue _ | .unexpectedValue _ => false

end UsageError

/-- An option as given, with its value; the value of an option that takes none is empty. -/
structure Given where
  switch : Switch
  value : Text := []
deriving DecidableEq, Repr

/-- The options found in one argument, and the option that takes the next argument as its value,
with the name by which it was called. -/
structure Cluster where
  given : List Given := []
  pending : Option (Switch × Text) := none
deriving DecidableEq, Repr

namespace Cluster

/-- Reads the letters after a single dash. -/
def ofLetters : List Char → Except UsageError Cluster
  | [] => .ok {}
  | c :: rest => match Switch.ofLetter? c with
    | none => .error (.noSuchOption ['-', c] [])
    | some switch =>
      if switch.takesValue then
        if rest = [] then .ok { pending := some (switch, ['-', c]) }
        else .ok { given := [⟨switch, rest⟩] }
      else match ofLetters rest with
        | .ok cluster => .ok { cluster with given := ⟨switch, []⟩ :: cluster.given }
        | .error e => .error e

/-- Reads an option by its long name, with the value after its equals sign if there is one. -/
def ofLongName (switch : Switch) (name : Text) : Option Text → Except UsageError Cluster
  | some value =>
    if switch.takesValue then .ok { given := [⟨switch, value⟩] } else .error (.unexpectedValue name)
  | none =>
    if switch.takesValue then .ok { pending := some (switch, name) }
    else .ok { given := [⟨switch, []⟩] }

/-- Reads an argument that starts with a dash: by a long name if there is one, else, unless it
starts with two dashes, by its letters. -/
def ofArgument (argument : Text) : Except UsageError Cluster :=
  let name := argument.takeWhile (· ≠ '=')
  let value := if '=' ∈ argument then some (argument.drop (name.length + 1)) else none
  match Switch.ofLongName? name with
  | some switch => ofLongName switch name value
  | none =>
    if ['-', '-'] <+: argument then
      .error (.noSuchOption name (Text.closeMatches name (Switch.all.map Switch.longName)))
    else ofLetters (argument.drop 1)

end Cluster

/-- The arguments of a call: the options in the order given, and the operands. -/
structure Arguments where
  given : List Given := []
  operands : List Text := []
deriving DecidableEq, Repr

namespace Arguments

def withGiven (options : List Given) (a : Arguments) : Arguments :=
  { a with given := options ++ a.given }

def withOperand (operand : Text) (a : Arguments) : Arguments :=
  { a with operands := operand :: a.operands }

/-- Reads the arguments from left to right; the first fault found is the error. -/
def parse : List Text → Except UsageError Arguments
  | [] => .ok {}
  | argument :: rest =>
    if argument = ['-', '-'] then .ok { operands := rest }
    else if argument.head? = some '-' ∧ 1 < argument.length then
      match Cluster.ofArgument argument, rest with
      | .error e, _ => .error e
      | .ok ⟨given, none⟩, rest => (parse rest).map (withGiven given)
      | .ok ⟨_, some (_, name)⟩, [] => .error (.missingValue name)
      | .ok ⟨given, some (switch, _)⟩, value :: rest =>
        (parse rest).map (withGiven (given ++ [⟨switch, value⟩]))
    else (parse rest).map (withOperand argument)

def has (a : Arguments) (switch : Switch) : Bool := a.given.any fun g => g.switch = switch

/-- The value of an option; of several the last counts. -/
def value? (a : Arguments) (switch : Switch) : Option Text :=
  (a.given.reverse.find? fun g => g.switch = switch).map Given.value

/-- The request for help or for the version that comes first. -/
def request? (a : Arguments) : Option Switch :=
  (a.given.find? fun g => g.switch = .help ∨ g.switch = .version).map Given.switch

end Arguments

/-- Why the values among the arguments are refused. -/
inductive ArgumentError where
  | usage (error : UsageError)
  /-- A path holds the null character, which no path of the system can. -/
  | nullInPath
deriving DecidableEq, Repr

def Switch.valueError? (files : FileTree) (value : Text) : Switch → Option ArgumentError
  | .maxLineLength => match Text.integer? value with
    | none => some (.usage (.badValue .maxLineLength (.notInteger value)))
    | some n => if n < 1 then some (.usage (.badValue .maxLineLength (.notPositive n))) else none
  | .symbols =>
    if '\x00' ∈ value then some .nullInPath
    else if files.isDirectory value then some (.usage (.badValue .symbols (.isDirectory value)))
    else none
  | _ => none

namespace Arguments

/-- What is wrong with the operands, which are paths. -/
def operandError? (a : Arguments) : Option ArgumentError :=
  if a.operands.any fun path => '\x00' ∈ path then some .nullInPath else none

/-- The first fault in the values of the options, which are checked in the order in which the
options are given, or else in the operands. -/
def valueError? (a : Arguments) (files : FileTree) : Option ArgumentError :=
  (a.given.findSome? fun g => g.switch.valueError? files ((a.value? g.switch).getD [])).or
    a.operandError?

end Arguments

end OnePass
