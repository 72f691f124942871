import OnePass.CommandLine.Program
import OnePass.Proofs.ArgumentValues
import OnePass.Proofs.SymbolFile

/-!
# The ways in which a call ends

Arguments are judged first, then the settings, then the file, and the symbol file comes last, when
the table has been printed already. Each way in which a call ends is stated once, with the code, all
that is printed and the files that are left; what a call can do is read off these cases.
-/

namespace OnePass.Proofs

/-- Arguments that ask neither for help nor for the version, and whose values are accepted. -/
structure Accepted (arguments : List Text) (files : FileTree) (a : Arguments) : Prop where
  parsed : Arguments.parse arguments = .ok a
  no_request : a.request? = none
  no_fault : a.valueError? files = none

lemma accepted_unique {arguments : List Text} {files : FileTree} {a a' : Arguments}
    (h : Accepted arguments files a) (h' : Accepted arguments files a') : a = a' :=
  Except.ok.inj (h.parsed.symm.trans h'.parsed)

/-- The settings that arguments and environment make. -/
def callConfig (env : Environment) (a : Arguments) : Except ConfigError Config :=
  Program.config env ((a.value? .maxLineLength).bind Text.integer?)

/-- Accepted arguments that name one file, with settings that can be used. -/
structure Names (arguments : List Text) (env : Environment) (files : FileTree) (a : Arguments)
    (path : Text) (config : Config) : Prop where
  accepted : Accepted arguments files a
  operands : a.operands = [path]
  settings : callConfig env a = .ok config

lemma names_unique {arguments : List Text} {env : Environment} {files : FileTree}
    {a a' : Arguments} {path path' : Text} {config config' : Config}
    (h : Names arguments env files a path config) (h' : Names arguments env files a' path' config') :
    a = a' ∧ path = path' ∧ config = config' := by
  obtain rfl := accepted_unique h.accepted h'.accepted
  obtain rfl := (List.cons.inj (h.operands.symm.trans h'.operands)).1
  obtain rfl := Except.ok.inj (h.settings.symm.trans h'.settings)
  exact ⟨rfl, rfl, rfl⟩

/-- What a call makes of the file that it names. -/
abbrev callAssembly (config : Config) (files : FileTree) (path : Text) : Assembly :=
  ({ config } : Assembler).assembleFile files path

/-- What has been logged when the file has been handled. -/
def logged (a : Arguments) (config : Config) (files : FileTree) (path : Text) : Text :=
  Program.log (a.has .verbose) (callAssembly config files path).events

/-- The table of some symbols as it is printed. -/
def printedTable (symbols : List Symbol) : Text := (report symbols).flatMap echo

/-- The ways in which a call ends. -/
inductive CallOutcome (arguments : List Text) (env : Environment) (files : FileTree)
    (trace : Failure → Text) : Except CallError Effect → Prop
  | misread {e : UsageError} (h : Arguments.parse arguments = .error e) :
      CallOutcome arguments env files trace (.ok { exitCode := 1, stderr := e.report, files })
  | informed {a : Arguments} {request : Switch} (parsed : Arguments.parse arguments = .ok a)
      (request_eq : a.request? = some request) :
      CallOutcome arguments env files trace (.ok
        { exitCode := 0
          stdout := if request = .version then versionText else helpText
          files })
  | misvalued {a : Arguments} {e : UsageError} (parsed : Arguments.parse arguments = .ok a)
      (no_request : a.request? = none) (fault : a.valueError? files = some (.usage e)) :
      CallOutcome arguments env files trace (.ok { exitCode := 1, stderr := e.report, files })
  | nullInPath {a : Arguments} (parsed : Arguments.parse arguments = .ok a)
      (no_request : a.request? = none) (fault : a.valueError? files = some .nullInPath) :
      CallOutcome arguments env files trace (.error .nullInPath)
  | unnamed {a : Arguments} (accepted : Accepted arguments files a) (operands : a.operands = []) :
      CallOutcome arguments env files trace (.ok (.refuse files "missing filename"))
  | renamed {a : Arguments} {path next : Text} {more : List Text}
      (accepted : Accepted arguments files a) (operands : a.operands = path :: next :: more) :
      CallOutcome arguments env files trace (.ok (.refuse files ("filename redefinition old=" ++
        (Path.ofText path).toText ++ " new=" ++ (Path.ofText next).toText)))
  | misconfigured {a : Arguments} {path : Text} {e : ConfigError}
      (accepted : Accepted arguments files a) (operands : a.operands = [path])
      (settings : callConfig env a = .error e) :
      CallOutcome arguments env files trace
        (.ok (.fail files (a.has .verbose) trace [] (.configuration e.message)))
  | unassembled {a : Arguments} {path : Text} {config : Config} {e : AssemblyError}
      (names : Names arguments env files a path config)
      (failed : (callAssembly config files path).failure = some e) :
      CallOutcome arguments env files trace
        (.ok (.fail files (a.has .verbose) trace (logged a config files path) e.failure))
  | reported {a : Arguments} {path : Text} {config : Config} {e : Encoding} {bytes : Bytes}
      {s : Session} (names : Names arguments env files a path config)
      (assembled : AssembledFrom { config } files path e bytes s)
      (unasked : a.value? .symbols = none) :
      CallOutcome arguments env files trace (.ok
        { exitCode := 0
          stderr := logged a config files path ++ printedTable s.symbols.symbols
          files })
  | unwritten {a : Arguments} {path target : Text} {config : Config} {e : Encoding} {bytes : Bytes}
      {s : Session} {error : PathError} (names : Names arguments env files a path config)
      (assembled : AssembledFrom { config } files path e bytes s)
      (asked : a.value? .symbols = some target)
      (failed : files.destination (Path.ofText target).toText = .error error) :
      CallOutcome arguments env files trace (.ok (.fail files (a.has .verbose) trace
        (logged a config files path ++ printedTable s.symbols.symbols)
        (.system (error.report (Path.ofText target).toText))))
  | written {a : Arguments} {path target : Text} {config : Config} {e : Encoding} {bytes : Bytes}
      {s : Session} {place : List Text} {content : Bytes}
      (names : Names arguments env files a path config)
      (assembled : AssembledFrom { config } files path e bytes s)
      (asked : a.value? .symbols = some target)
      (destination : files.destination (Path.ofText target).toText = .ok place)
      (content_eq : e.encode (symbolFileText s.symbols.symbols) = .ok content) :
      CallOutcome arguments env files trace (.ok
        { exitCode := 0
          stderr := logged a config files path ++ printedTable s.symbols.symbols ++
            Program.log (a.has .verbose) [.symbolsWritten (Path.ofText target).toText]
          files := files.putFile place content })

lemma check_of_envConfig {env : Environment} {config : Config} (h : env.config = .ok config) :
    config.Valid := by
  unfold Environment.config at h
  cases hl : env.lineLimit with
  | error e => simp [hl] at h
  | ok limit =>
    simp only [hl] at h
    split at h
    · cases h
    · rename_i hcheck
      rw [Except.ok.injEq] at h
      rw [← h]
      exact hcheck

theorem valid_of_config {env : Environment} {limit : Option Int} {config : Config}
    (h : Program.config env limit = .ok config) : config.Valid := by
  unfold Program.config at h
  cases he : env.config with
  | error e => simp [he] at h
  | ok settings =>
    simp only [he] at h
    cases limit with
    | none =>
      rw [Except.ok.injEq] at h
      rw [← h]
      exact check_of_envConfig he
    | some n =>
      dsimp only at h
      split at h
      · rename_i hcheck
        rw [Except.ok.injEq] at h
        rw [← h]
        exact hcheck
      · cases h

section Performing

variable {arguments : List Text} {env : Environment} {files : FileTree} {a : Arguments}
  {trace : Failure → Text}

lemma assemble_outcome {path : Text} {config : Config}
    (names : Names arguments env files a path config) :
    CallOutcome arguments env files trace
      (.ok (Program.assemble config (a.has .verbose) trace files path (a.value? .symbols))) := by
  have hmake : Assembler.make (some config) none = { config } := rfl
  unfold Program.assemble
  simp only [hmake]
  cases hf : (({ config } : Assembler).assembleFile files path).failure with
  | some e => exact .unassembled names hf
  | none =>
    have valid : config.Valid := valid_of_config names.settings
    obtain ⟨e, bytes, s, assembled⟩ := assembledFrom_of_returns valid hf
    simp only [assembled.reports.report]
    cases hs : a.value? .symbols with
    | none => exact .reported names assembled hs
    | some target =>
      have hnull : '\x00' ∉ (Path.ofText target).toText :=
        null_not_mem_toText (null_not_mem_symbols names.accepted.no_fault hs)
      have houtcome := writeSymbols_outcome assembled files (Path.ofText target).toText
      simp only [Option.map_some]
      generalize (({ config } : Assembler).assembleFile files path).assembler.writeSymbols files
        (Path.ofText target).toText = result at houtcome
      cases houtcome with
      | nameless h => exact absurd h hnull
      | unopened h => exact .unwritten names assembled hs h
      | written h content => exact .written names assembled hs h content

lemma perform_outcome (accepted : Accepted arguments files a) :
    CallOutcome arguments env files trace (.ok (Program.perform a env files trace)) := by
  unfold Program.perform
  match ho : a.operands with
  | [] => exact .unnamed accepted ho
  | path :: next :: more => exact .renamed accepted ho
  | [path] =>
    dsimp only
    cases hc : callConfig env a with
    | error e =>
      have hcall : CallOutcome arguments env files trace _ := .misconfigured accepted ho hc
      unfold callConfig at hc
      rw [hc]
      exact hcall
    | ok config =>
      have hcall : CallOutcome arguments env files trace _ := assemble_outcome ⟨accepted, ho, hc⟩
      unfold callConfig at hc
      rw [hc]
      exact hcall

end Performing

theorem run_outcome (arguments : List Text) (env : Environment) (files : FileTree)
    (trace : Failure → Text) :
    CallOutcome arguments env files trace (Program.run arguments env files trace) := by
  unfold Program.run
  cases hp : Arguments.parse arguments with
  | error e => exact .misread hp
  | ok a =>
    cases hr : a.request? with
    | some request =>
      have hinformed : CallOutcome arguments env files trace _ := .informed hp hr
      simp only [hr]
      cases request with
      | version => exact hinformed
      | symbols => exact hinformed
      | maxLineLength => exact hinformed
      | verbose => exact hinformed
      | help => exact hinformed
    | none =>
      cases hv : a.valueError? files with
      | some fault =>
        simp only [hr, hv]
        cases fault with
        | usage e => exact .misvalued hp hr hv
        | nullInPath => exact .nullInPath hp hr hv
      | none =>
        simp only [hr, hv]
        exact perform_outcome ⟨hp, hr, hv⟩

lemma exitCode_fail {files : FileTree} {verbose : Bool} {trace : Failure → Text} {stderr : Text}
    {f : Failure} : (Effect.fail files verbose trace stderr f).exitCode ≠ 0 := by
  cases f with
  | source r => exact Nat.one_ne_zero
  | system r => exact Nat.one_ne_zero
  | configuration r => exact Nat.one_ne_zero
  | internal r => exact Nat.succ_ne_zero 2

lemma exists_effect_of_map {α : Type} {arguments : List Text} {env : Environment}
    {files : FileTree} {trace : Failure → Text} {f : Effect → α} {x : α}
    (h : (Program.run arguments env files trace).toOption.map f = some x) :
    ∃ effect, Program.run arguments env files trace = .ok effect ∧ f effect = x := by
  cases hrun : Program.run arguments env files trace with
  | error e =>
    rw [hrun] at h
    cases h
  | ok effect =>
    rw [hrun] at h
    exact ⟨effect, rfl, Option.some.inj h⟩

/-- A call without a null character among its arguments ends with a code. -/
theorem exists_effect {arguments : List Text} (hnull : NoNull arguments) (env : Environment)
    (files : FileTree) (trace : Failure → Text) :
    ∃ effect, Program.run arguments env files trace = .ok effect := by
  have houtcome := run_outcome arguments env files trace
  cases hrun : Program.run arguments env files trace with
  | ok effect => exact ⟨effect, rfl⟩
  | error e =>
    rw [hrun] at houtcome
    cases houtcome with
    | nullInPath parsed _ fault => exact absurd fault (valueError?_ne_nullInPath files hnull parsed)

end OnePass.Proofs
