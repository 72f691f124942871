import OnePass.Assembler
import OnePass.CommandLine.Arguments
import OnePass.CommandLine.Output

/-!
# The program

A call assembles one file and reports its labels. What a call prints, the code with which it ends
and the files it leaves are a function of its arguments, its environment and the files it finds.
-/

namespace OnePass

def usageLine : Text := "Usage: linasm [OPTIONS] FILENAME\n"

def helpText : Text := usageLine ++ Text.join "\n"
  ["",
   "  Assemble FILENAME in a single pass and print its label table.",
   "",
   "  Each line is read as [label:] [mnemonic] [operand]. Text after ';' is a",
   "  comment unless it is inside a '...' string.",
   "",
   "  Examples:",
   "      linasm hello.asm                 # Print label table",
   "      linasm hello.asm -s hello.sym    # Also write a symbol file",
   "",
   "Options:",
   "  -s, --symbols FILE              Also write the symbol table to this file",
   "  --max-line-length INTEGER RANGE",
   "                                  Reject source lines this long or longer",
   "                                  (default: 1000, or $LINASM_MAX_LINE_LENGTH)",
   "                                  [x>=1]",
   "  -v, --verbose                   Log every label and mnemonic handler",
   "                                  invocation",
   "  --version                       Show the version and exit.",
   "  -h, --help                      Show this message and exit.",
   ""]

def versionText : Text := "linasm, version 1.0.0\n"

def UsageError.report (e : UsageError) : Text :=
  (if e.showsUsage then usageLine ++ "Try 'linasm --help' for help.\n\n" else []) ++
    "Error: " ++ e.message ++ "\n"

def OpenError.failure (path : Text) (e : OpenError) : Failure :=
  match e with
  | .nullInEncoding | .nullInPath => .configuration (e.message path)
  | .path _ => .system (e.message path)
  | .encoding _ => .internal (e.message path)

def AssemblyError.failure (e : AssemblyError) : Failure :=
  match e with
  | .diagnostic _ => .source e.message
  | .noByteOrderMark => .configuration e.message
  | .unopened error => error.failure []

def SymbolFileError.failure (path : Text) (e : SymbolFileError) : Failure :=
  match e with
  | .noResult _ => .internal (e.message path)
  | .write (.unopened error) => error.failure path
  | .write (.unencodable _) => .configuration (e.message path)

/-- Why a call comes to nothing: it prints nothing, writes nothing and ends with no code. -/
inductive CallError where
  /-- A path among the arguments holds the null character. -/
  | nullInPath
deriving DecidableEq, Repr

def CallError.message : CallError → Text
  | .nullInPath => "embedded null byte"

/-- What a call of the program does: the code with which it ends, what it prints and the files that
it leaves. -/
structure Effect where
  exitCode : Nat
  stdout : Text := []
  stderr : Text := []
  files : FileTree

namespace Effect

def fail (files : FileTree) (verbose : Bool) (trace : Failure → Text) (stderr : Text)
    (f : Failure) : Effect where
  exitCode := f.exitCode
  stderr := stderr ++ f.report verbose trace
  files := files

/-- A call that is refused with a remark and a reminder of the usage. -/
def refuse (files : FileTree) (remark : Text) : Effect where
  exitCode := 1
  stdout := usageLine
  stderr := echo remark
  files := files

end Effect

namespace Program

/-- The settings of a call: those of the environment, with the limit on the length of a line
replaced if the arguments say so. -/
def config (env : Environment) (limit : Option Int) : Except ConfigError Config :=
  match env.config with
  | .error e => .error e
  | .ok config => match limit with
    | none => .ok config
    | some n =>
      let limited := { config with lineLimit := n }
      match limited.check with
      | .ok () => .ok limited
      | .error e => .error e

/-- The log of some events, which is printed only on demand. -/
def log (verbose : Bool) (events : List Event) : Text :=
  if verbose then events.flatMap logLine else []

/-- Assembles a file, reports its labels and writes the symbol file if one is asked for. -/
def assemble (config : Config) (verbose : Bool) (trace : Failure → Text) (files : FileTree)
    (path : Text) (symbolFile : Option Text) : Effect :=
  let assembly := (Assembler.make (some config) none).assembleFile files path
  let logged := log verbose assembly.events
  match assembly.failure with
  | some e => .fail files verbose trace logged e.failure
  | none => match assembly.assembler.symbolReport with
    | .error e => .fail files verbose trace logged (.internal e.message)
    | .ok lines =>
      -- The report is out before the symbol file is opened, and stays so if that fails.
      let shown := logged ++ lines.flatMap echo
      match symbolFile.map fun s => (Path.ofText s).toText with
      | none => { exitCode := 0, stderr := shown, files }
      | some target => match assembly.assembler.writeSymbols files target with
        | (files', some e) => .fail files' verbose trace shown (e.failure target)
        | (files', none) =>
          { exitCode := 0, stderr := shown ++ log verbose [.symbolsWritten target], files := files' }

/-- Does what arguments without faults ask for. -/
def perform (a : Arguments) (env : Environment) (files : FileTree) (trace : Failure → Text) :
    Effect :=
  match a.operands with
  | [] => .refuse files "missing filename"
  | path :: next :: _ =>
    .refuse files ("filename redefinition old=" ++ (Path.ofText path).toText ++ " new=" ++
      (Path.ofText next).toText)
  | [path] =>
    let verbose := a.has .verbose
    match config env ((a.value? .maxLineLength).bind Text.integer?) with
    | .error e => .fail files verbose trace [] (.configuration e.message)
    | .ok config => assemble config verbose trace files path (a.value? .symbols)

/-- Runs the program. Faults in the form of the arguments come before everything else, requests for
help and for the version before faults in the values of options and in paths. The traces of
failures, which the program does not determine, are given. -/
def run (arguments : List Text) (env : Environment) (files : FileTree)
    (trace : Failure → Text := Failure.noTrace) : Except CallError Effect :=
  match Arguments.parse arguments with
  | .error e => .ok { exitCode := 1, stderr := e.report, files }
  | .ok a => match a.request? with
    | some .version => .ok { exitCode := 0, stdout := versionText, files }
    | some _ => .ok { exitCode := 0, stdout := helpText, files }
    | none => match a.valueError? files with
      | some (.usage e) => .ok { exitCode := 1, stderr := e.report, files }
      | some .nullInPath => .error .nullInPath
      | none => .ok (perform a env files trace)

end Program

end OnePass
