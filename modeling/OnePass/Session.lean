import OnePass.Line.Statement
import OnePass.Mnemonic.Similar
import OnePass.Symbol.Table

/-!
# Sessions

A session is the state of one run: the settings, the mnemonics, the name of the source, the labels
declared so far and the address reached. A line is resolved in two steps: its label is declared at
the current address, then its mnemonic advances the address. A line that fails may have declared
its label before.
-/

namespace OnePass

inductive CounterError where
  | startBelowZero (start : Int)
  | movesBackwards (size : Int)
deriving DecidableEq, Repr

def CounterError.message : CounterError → Text
  | .startBelowZero start =>
    "address counter cannot start below zero, got " ++ Text.ofInt start
  | .movesBackwards size =>
    "address counter cannot move backwards (size " ++ Text.ofInt size ++ ")"

structure AddressCounter where
  value : Nat := 0
deriving DecidableEq, Repr

namespace AddressCounter

/-- A counter at a given address, which must not be negative. -/
def start : Int → Except CounterError AddressCounter
  | .ofNat n => .ok ⟨n⟩
  | n => .error (.startBelowZero n)

def skip (c : AddressCounter) (size : Nat) : AddressCounter := ⟨c.value + size⟩

/-- Moves a counter by an amount, which must not be negative. -/
def advance (c : AddressCounter) : Int → Except CounterError AddressCounter
  | .ofNat n => .ok (c.skip n)
  | n => .error (.movesBackwards n)

def display (c : AddressCounter) : Text := "AddressCounter(" ++ Text.ofNat c.value ++ ")"

end AddressCounter

/-- What a run notes on its way. -/
inductive Event where
  /-- A raw line ends inside a quoted span. -/
  | unterminatedSpan (raw : Text)
  | labelDeclared (name : Text) (offset line : Int)
  | dispatched (keyword : Text) (line : Int) (operand : Option Text) (size : Nat)
  | opening (path : Text)
  /-- A run has reached the end of its source. -/
  | completed (filename : Text) (lines labels address : Nat)
  | symbolsWritten (path : Text)
deriving DecidableEq, Repr

def Event.message : Event → Text
  | .unterminatedSpan raw =>
    "unterminated quoted span in " ++ Text.quoted (Text.trimRight raw)
  | .labelDeclared name offset line =>
    "label " ++ Text.quoted name ++ " = " ++ Text.ofInt offset ++ " (line " ++ Text.ofInt line ++ ")"
  | .dispatched keyword line operand size =>
    keyword ++ ": line=" ++ Text.ofInt line ++ " operand=[" ++ operand.getD [] ++ "] size=" ++
      Text.ofNat size
  | .opening path => "assembling " ++ path
  | .completed filename lines labels address =>
    filename ++ ": " ++ Text.ofNat lines ++ " lines, " ++ Text.ofNat labels ++
      " labels, final address " ++ Text.ofNat address
  | .symbolsWritten path => "wrote symbols to " ++ path

structure Session where
  config : Config := {}
  mnemonics : MnemonicTable := MnemonicTable.standard
  filename : Text := "<input>"
  symbols : SymbolTable := {}
  counter : AddressCounter := {}
deriving DecidableEq, Repr

/-- What has become of a session: its new state, the events on the way and the failure, if any. -/
structure Outcome where
  session : Session
  events : List Event := []
  failure : Option Diagnostic := none
deriving DecidableEq, Repr

namespace Session

def address (s : Session) : Nat := s.counter.value

def locate (s : Session) (line : Int) : Location := ⟨s.filename, line⟩

def declare (s : Session) (name : Text) (line : Int) : Except Diagnostic Session :=
  match s.symbols.insert ⟨name, line, s.address, some (s.locate line)⟩ with
  | .ok symbols => .ok { s with symbols }
  | .error d => .error d

def declareLabel (s : Session) (label : Option Text) (line : Int) : Outcome :=
  match label with
  | none => { session := s }
  | some name => match s.declare name line with
    | .ok s' => { session := s', events := [.labelDeclared name s.address line] }
    | .error d => { session := s, failure := some d }

/-- Looks up the mnemonic of a line, if it has one, and advances the address by its size. Hints on
an unknown mnemonic come from a table of their own. -/
def dispatch (s : Session) (hints : MnemonicTable) (statement : Statement) (line : Int)
    (shown : Option Text) : Outcome :=
  match statement.mnemonic, statement.operand with
  | none, none => { session := s }
  | none, some operand =>
    { session := s, failure := some ⟨.strayOperand operand, some (s.locate line), shown⟩ }
  | some mnemonic, operand => match s.mnemonics.find? mnemonic with
    | some h =>
      { session := { s with counter := s.counter.skip h.size }
        events := [.dispatched h.keyword line operand h.size] }
    | none =>
      { session := s
        failure :=
          some ⟨.unknownMnemonic mnemonic (hints.similar mnemonic), some (s.locate line), shown⟩ }

/-- Resolves the fields of a line: first the label, then the mnemonic. -/
def resolve (s : Session) (hints : MnemonicTable) (statement : Statement) (line : Int)
    (shown : Option Text) : Outcome :=
  let declared := s.declareLabel statement.label line
  match declared.failure with
  | some _ => declared
  -- From here on the label stays declared, whatever becomes of the mnemonic.
  | none =>
    let dispatched := declared.session.dispatch hints statement line shown
    { dispatched with events := declared.events ++ dispatched.events }

/-- Handles a raw line: takes off its comment, finds its fields and resolves them. -/
def assembleLine (s : Session) (hints : MnemonicTable) (line : Int) (raw : Text) : Outcome :=
  match Line.normalize s.config (s.locate line) raw with
  | .error d => { session := s, failure := some d }
  | .ok text =>
    let noted := if Line.isUnterminated s.config raw then [Event.unterminatedSpan raw] else []
    match Statement.parse s.config (s.locate line) text with
    | .error d => { session := s, events := noted, failure := some d }
    | .ok statement =>
      if statement.isBlank then { session := s, events := noted }
      else
        let resolved := s.resolve hints statement line (some text)
        { resolved with events := noted ++ resolved.events }

end Session

/-- A pass over raw lines: the session it leaves, the number of lines it has taken, the events on
the way and the failure that stopped it, if any. -/
structure Pass where
  session : Session
  linesRead : Nat
  events : List Event := []
  failure : Option Diagnostic := none
deriving DecidableEq, Repr

/-- Handles raw lines one after the other, the first of them being the one after line `n`. The first
failure ends the pass; no line after it is taken. -/
def Session.pass (s : Session) (hints : MnemonicTable) (n : Nat) : List Text → Pass
  | [] => { session := s, linesRead := n }
  | raw :: rest =>
    let outcome := s.assembleLine hints (n + 1) raw
    match outcome.failure with
    | some d =>
      { session := outcome.session, linesRead := n + 1, events := outcome.events, failure := some d }
    | none =>
      let later := outcome.session.pass hints (n + 1) rest
      { later with events := outcome.events ++ later.events }

end OnePass
