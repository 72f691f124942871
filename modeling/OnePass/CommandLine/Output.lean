import OnePass.Session
import OnePass.Text.ControlSequence
import OnePass.Text.LineBreak

/-!
# What the program prints

Every line of a diagnostic starts with the name of the program, whatever line breaks the message
holds. Log lines carry their level as well. Failures of different kinds are worded differently and
end the program with different codes.
-/

namespace OnePass

def programName : Text := "linasm"

/-- What stands in front of every line of a diagnostic. -/
def lineStart : Text := programName ++ ": "

/-- A message as it is printed: its lines, or one empty line, each after the program's name and
without control sequences. -/
def echo (message : Text) : Text :=
  let lines := match Text.displayLines message with
    | [] => [[]]
    | lines => lines
  lines.flatMap fun l => Text.stripSequences (lineStart ++ l) ++ "\n"

def logLine (e : Event) : Text := lineStart ++ "DEBUG: " ++ e.message ++ "\n"

/-- Why the program gives up, with a report of the reason. -/
inductive Failure where
  /-- The program text is at fault. -/
  | source (report : Text)
  /-- A file cannot be opened for writing. -/
  | system (report : Text)
  /-- The settings cannot be used. -/
  | configuration (report : Text)
  /-- Anything else. -/
  | internal (report : Text)
deriving DecidableEq, Repr

namespace Failure

def message : Failure → Text
  | .source report => report
  | .system report => "error: " ++ report
  | .configuration report => "error: invalid configuration: " ++ report
  | .internal report => "internal error: " ++ report

def exitCode : Failure → Nat
  | .internal _ => 3
  | _ => 1

/-- What stands in place of a trace when a failure is reported directly, while none is being
handled. -/
def noTrace (_ : Failure) : Text := "NoneType: None\n"

/-- What is printed of a failure. If details are asked for, an internal failure is followed by its
trace. The trace of a failure that is being handled tells where the program lies and how it got
there, so it is not a text of the program but a parameter. -/
def report (verbose : Bool) (f : Failure) (trace : Failure → Text := noTrace) : Text :=
  match f with
  | .internal _ => echo f.message ++ if verbose then trace f else []
  | _ => echo f.message

end Failure

end OnePass
