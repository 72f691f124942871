import OnePass.Files.Path
import OnePass.Files.TextFile
import OnePass.Session
import OnePass.Symbol.Listing

/-!
# Assemblers

An assembler holds settings and mnemonics and can be given one source after the other. Each source
that can be opened starts a new session. Results are those of the last session, and are there only
if it reached the end of its source.
-/

namespace OnePass

/-- Why assembling a source fails. -/
inductive AssemblyError where
  | diagnostic (d : Diagnostic)
  /-- The file has no byte-order mark and its encoding needs one. -/
  | noByteOrderMark
  /-- The file cannot be opened because of its name or its encoding. -/
  | unopened (error : OpenError)
deriving DecidableEq, Repr

def AssemblyError.message : AssemblyError → Text
  | .diagnostic d => d.report
  | .noByteOrderMark => "UTF-16 stream does not start with BOM"
  | .unopened error => error.message []

/-- Why there are no results. -/
inductive ResultError where
  | noCompletedRun
deriving DecidableEq, Repr

def ResultError.message : ResultError → Text
  | .noCompletedRun => "no completed assembly run"

/-- Why a symbol file is not written, or not in full. -/
inductive SymbolFileError where
  | noResult (error : ResultError)
  | write (error : WriteError)
deriving DecidableEq, Repr

def SymbolFileError.message (path : Text) : SymbolFileError → Text
  | .noResult error => error.message
  | .write error => error.message path

/-- Settings and mnemonics, and the last session. -/
structure Assembler where
  config : Config := {}
  mnemonics : MnemonicTable := MnemonicTable.standard
  session : Option Session := none
  /-- Whether the last session reached the end of its source. -/
  complete : Bool := false
deriving DecidableEq, Repr

/-- What has become of an assembler that was given a source. -/
structure Assembly where
  assembler : Assembler
  events : List Event := []
  /-- The number of lines taken from the source. -/
  linesRead : Nat := 0
  failure : Option AssemblyError := none
deriving DecidableEq, Repr

namespace Assembler

/-- An assembler with the given settings and mnemonics. A table without mnemonics counts as none
given, and the standard one takes its place. -/
def make (config : Option Config) (mnemonics : Option MnemonicTable) : Assembler where
  config := config.getD {}
  mnemonics := match mnemonics with
    | some t => if t.handlers = [] then MnemonicTable.standard else t
    | none => MnemonicTable.standard

def newSession (a : Assembler) (filename : Text) : Session where
  config := a.config
  mnemonics := a.mnemonics
  filename := filename

def readFailure (filename : Text) : ReadFault → AssemblyError
  | .undecodable fault => .diagnostic ⟨.unreadable filename fault.message, none, none⟩
  | .noByteOrderMark => .noByteOrderMark

/-- Handles the lines of a source in a new session. -/
def assembleSource (a : Assembler) (source : Source) (filename : Text) : Assembly :=
  let pass := (a.newSession filename).pass a.mnemonics 0 source.lines
  let stopped : Assembly :=
    { assembler := { a with session := some pass.session, complete := false }
      events := pass.events
      linesRead := pass.linesRead }
  -- Lines are taken as they are read, so that a faulty one comes before any fault in reading.
  match pass.failure, source.fault with
  | some d, _ => { stopped with failure := some (.diagnostic d) }
  | none, some fault => { stopped with failure := some (readFailure filename fault) }
  | none, none =>
    { stopped with
      assembler := { stopped.assembler with complete := true }
      events := pass.events ++
        [.completed filename pass.linesRead pass.session.symbols.size pass.session.address] }

/-- Handles raw lines, which may hold line breaks. -/
def assembleLines (a : Assembler) (lines : List Text) (filename : Text) : Assembly :=
  a.assembleSource ⟨lines, none⟩ filename

def assembleText (a : Assembler) (text filename : Text) : Assembly :=
  a.assembleSource (Source.ofText text) filename

def openFailure (path : Text) : OpenError → AssemblyError
  | .path error => .diagnostic ⟨.unreadable path error.reason, none, none⟩
  | error => .unopened error

/-- Handles the file at a path. If it cannot be opened the assembler stays as it was. -/
def assembleFile (a : Assembler) (files : FileTree) (path : Text) : Assembly :=
  let filename := (Path.ofText path).toText
  match files.readText filename a.config.encoding with
  | .error e =>
    { assembler := a, events := [.opening filename], failure := some (openFailure filename e) }
  | .ok source =>
    let assembly := a.assembleSource source filename
    { assembly with events := .opening filename :: assembly.events }

/-- The last session, provided that it reached the end of its source. -/
def result (a : Assembler) : Except ResultError Session :=
  match a.session with
  | some s => if a.complete then .ok s else .error .noCompletedRun
  | none => .error .noCompletedRun

def symbols (a : Assembler) : Except ResultError SymbolTable := a.result.map Session.symbols

def address (a : Assembler) : Except ResultError Nat := a.result.map Session.address

def symbolReport (a : Assembler) : Except ResultError (List Text) :=
  a.symbols.map fun t => report t.symbols

/-- Writes the symbols of the completed run to the file at a path. -/
def writeSymbols (a : Assembler) (files : FileTree) (path : Text) :
    FileTree × Option SymbolFileError :=
  match a.symbols with
  | .error e => (files, some (.noResult e))
  | .ok t =>
    let (files', failure) := files.writeText path a.config.encoding t.fileLines
    (files', failure.map .write)

end Assembler

end OnePass
