import OnePass.Proofs.CallOutcome

/-!
# The files that a call leaves

A call that fails leaves all files as they were. A call that succeeds writes one file at most, at
the path given for it, and that file then lists the labels of the file that was assembled, in its
encoding. Nothing can go wrong once the symbol file has been opened.
-/

namespace OnePass.Proofs

/-- The path of the symbol file among some arguments. -/
def symbolPath? (arguments : List Text) : Option Text :=
  match Arguments.parse arguments with
  | .ok a => (a.value? .symbols).map fun target => (Path.ofText target).toText
  | .error _ => none

/-- What a call leaves of the files it finds. -/
structure KeepsFiles (arguments : List Text) (env : Environment) (files : FileTree)
    (effect : Effect) : Prop where
  failed : effect.exitCode ≠ 0 → effect.files = files
  elsewhere : ∀ place,
    (∀ target, symbolPath? arguments = some target → files.destination target ≠ .ok place) →
      effect.files.node? place = files.node? place
  workingDirectory : effect.files.workingDirectory = files.workingDirectory
  unasked : symbolPath? arguments = none → effect.files = files
  /-- The header, and a line for each label that the assembled file declares, in order. -/
  written : ∀ a target, Arguments.parse arguments = .ok a → a.request? = none →
    a.value? .symbols = some target → effect.exitCode = 0 →
      ∃ path config e bytes content, Names arguments env files a path config ∧
        Encoding.ofName config.encoding = .ok e ∧
        files.read (Path.ofText path).toText = .ok bytes ∧
        (Source.ofBytes e bytes).fault = none ∧
        e.encode (symbolFileText (declarations config MnemonicTable.standard
          (Path.ofText path).toText (Source.ofBytes e bytes).lines)) = .ok content ∧
        effect.files.read (Path.ofText target).toText = .ok content

section Keeping

variable {arguments : List Text} {env : Environment} {files : FileTree} {trace : Failure → Text}
  {effect : Effect}

lemma symbolPath?_of_asked {a : Arguments} {target : Text}
    (parsed : Arguments.parse arguments = .ok a) (asked : a.value? .symbols = some target) :
    symbolPath? arguments = some (Path.ofText target).toText := by
  unfold symbolPath?
  rw [parsed]
  simp only [asked, Option.map_some]

lemma keepsFiles_of_unwritten (hfiles : effect.files = files)
    (hunwritten : ∀ a target, Arguments.parse arguments = .ok a → a.request? = none →
      a.value? .symbols = some target → effect.exitCode ≠ 0) :
    KeepsFiles arguments env files effect := by
  refine ⟨fun _ => hfiles, fun place _ => by rw [hfiles], by rw [hfiles], fun _ => hfiles, ?_⟩
  intro a target parsed no_request asked hcode
  exact absurd hcode (hunwritten a target parsed no_request asked)

lemma keepsFiles_of_failed (hfiles : effect.files = files) (hcode : effect.exitCode ≠ 0) :
    KeepsFiles arguments env files effect :=
  keepsFiles_of_unwritten hfiles fun _ _ _ _ _ => hcode

lemma keepsFiles_of_written {a : Arguments} {path target : Text} {config : Config} {e : Encoding}
    {bytes content : Bytes} {s : Session} {place : List Text}
    (names : Names arguments env files a path config)
    (assembled : AssembledFrom { config } files path e bytes s)
    (asked : a.value? .symbols = some target)
    (destination : files.destination (Path.ofText target).toText = .ok place)
    (content_eq : e.encode (symbolFileText s.symbols.symbols) = .ok content)
    (hcode : effect.exitCode = 0) (hfiles : effect.files = files.putFile place content) :
    KeepsFiles arguments env files effect := by
  have hpath := symbolPath?_of_asked names.accepted.parsed asked
  refine ⟨fun h => absurd hcode h, ?_, by rw [hfiles]; rfl, ?_, ?_⟩
  · intro other hother
    have hne : other ≠ place := by
      rintro rfl
      exact hother _ hpath destination
    rw [hfiles, node?_putFile hne]
  · intro hnone
    rw [hpath] at hnone
    cases hnone
  · intro a' target' parsed _ asked' _
    obtain rfl : a = a' := Except.ok.inj (names.accepted.parsed.symm.trans parsed)
    obtain rfl : target = target' := Option.some.inj (asked.symm.trans asked')
    rw [assembled.reached.symbols] at content_eq
    refine ⟨path, config, e, bytes, content, names, assembled.encoding, assembled.read,
      assembled.whole, content_eq, ?_⟩
    rw [hfiles]
    exact read_putFile destination

theorem keepsFiles_of_outcome (h : CallOutcome arguments env files trace (.ok effect)) :
    KeepsFiles arguments env files effect := by
  cases h with
  | misread h => exact keepsFiles_of_failed rfl Nat.one_ne_zero
  | misvalued parsed no_request fault => exact keepsFiles_of_failed rfl Nat.one_ne_zero
  | unnamed accepted operands => exact keepsFiles_of_failed rfl Nat.one_ne_zero
  | renamed accepted operands => exact keepsFiles_of_failed rfl Nat.one_ne_zero
  | misconfigured accepted operands settings => exact keepsFiles_of_failed rfl exitCode_fail
  | unassembled names failed => exact keepsFiles_of_failed rfl exitCode_fail
  | unwritten names assembled asked failed => exact keepsFiles_of_failed rfl exitCode_fail
  | informed parsed request_eq =>
    refine keepsFiles_of_unwritten rfl ?_
    intro a target parsed' no_request
    obtain rfl := Except.ok.inj (parsed.symm.trans parsed')
    rw [request_eq] at no_request
    cases no_request
  | reported names assembled unasked =>
    refine keepsFiles_of_unwritten rfl ?_
    intro a target parsed _ asked
    obtain rfl := Except.ok.inj (names.accepted.parsed.symm.trans parsed)
    rw [unasked] at asked
    cases asked
  | written names assembled asked destination content_eq =>
    exact keepsFiles_of_written names assembled asked destination content_eq rfl rfl

end Keeping

/-- A call changes no file unless it succeeds, and then only its symbol file, which lists the labels
in the encoding of the settings. In general, an assembler that has assembled a file either writes
its symbols in full to another or cannot open that one, and then changes nothing. -/
theorem call_keeps_files (arguments : List Text) (hnull : NoNull arguments) (env : Environment)
    (files : FileTree) (trace : Failure → Text) :
    (∃ effect, Program.run arguments env files trace = .ok effect ∧
      KeepsFiles arguments env files effect) ∧
    ∀ (a : Assembler) (path : Text), a.config.Valid → (a.assembleFile files path).failure = none →
      ∃ e bytes s, AssembledFrom a files path e bytes s ∧ ∀ files' target,
        SymbolFileOutcome files' target e s.symbols.symbols
          ((a.assembleFile files path).assembler.writeSymbols files' target) := by
  constructor
  · obtain ⟨effect, heffect⟩ := exists_effect hnull env files trace
    have houtcome := run_outcome arguments env files trace
    rw [heffect] at houtcome
    exact ⟨effect, heffect, keepsFiles_of_outcome houtcome⟩
  · intro a path valid hreturns
    obtain ⟨e, bytes, s, hassembled⟩ := assembledFrom_of_returns valid hreturns
    exact ⟨e, bytes, s, hassembled, writeSymbols_outcome hassembled⟩

/-- Two labels in UTF-16, listed in a file next to theirs. -/
theorem two_labels_listed :
    let arguments : List Text := ["p".toList, "-s".toList, "q".toList]
    let env : Environment := { encoding := some "UTF-16" }
    let files := ({} : FileTree).addFile [['p']]
      [0xFF, 0xFE, 0xE9, 0x00, 0x3A, 0x00, 0x0A, 0x00, 0x62, 0x00, 0x3A, 0x00]
    let a : Assembler := { config := { encoding := "UTF-16" } }
    NoNull arguments ∧
      (∃ effect, Program.run arguments env files = .ok effect ∧ effect.exitCode = 0 ∧
        KeepsFiles arguments env files effect) ∧
      a.config.Valid ∧ (a.assembleFile files ['p']).failure = none ∧
      ∃ e bytes s, AssembledFrom a files ['p'] e bytes s ∧ ∀ files' target,
        SymbolFileOutcome files' target e s.symbols.symbols
          ((a.assembleFile files ['p']).assembler.writeSymbols files' target) := by
  intro arguments env files a
  have hnull : NoNull arguments := by decide
  have valid : a.config.Valid := by decide +kernel
  have hreturns : (a.assembleFile files ['p']).failure = none := by decide +kernel
  have hcode : (Program.run arguments env files).toOption.map Effect.exitCode = some 0 := by
    decide +kernel
  obtain ⟨⟨effect, hrun, hkeeps⟩, hsafe⟩ :=
    call_keeps_files arguments hnull env files Failure.noTrace
  rw [hrun] at hcode
  exact ⟨hnull, ⟨effect, hrun, Option.some.inj hcode, hkeeps⟩, valid, hreturns,
    hsafe a ['p'] valid hreturns⟩

end OnePass.Proofs
