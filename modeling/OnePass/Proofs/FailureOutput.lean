import OnePass.Proofs.CallOutcome

/-!
# What a failing call prints

A call that fails tells what is at fault and nothing else, in all cases but one: when the symbol
file cannot be opened the table has been printed already. No report of a fault can be taken for a
line of the table.
-/

namespace OnePass.Proofs

/-- A message that is a line of a table of labels. -/
def IsTableLine (m : Text) : Prop :=
  m = reportHeader ∨ ∃ s : Symbol, IsKeyword s.name ∧ m = s.reportLine

/-- A line of a table of labels has been printed. -/
def ShowsTable (stderr : Text) : Prop :=
  ∃ before m after, IsTableLine m ∧ stderr = before ++ echo m ++ after

/-- What is told about a fault. -/
inductive Notice where
  | usage (e : UsageError)
  | message (m : Text)

/-- A notice as it is printed. -/
def Notice.text : Notice → Text
  | .usage e => e.report
  | .message m => echo m

/-- The faults of a call up to the end of the assembly, and what is told about each. -/
inductive Complaint (arguments : List Text) (env : Environment) (files : FileTree) : Notice → Prop
  | misread {e : UsageError} (h : Arguments.parse arguments = .error e) :
      Complaint arguments env files (.usage e)
  | misvalued {a : Arguments} {e : UsageError} (parsed : Arguments.parse arguments = .ok a)
      (no_request : a.request? = none) (fault : a.valueError? files = some (.usage e)) :
      Complaint arguments env files (.usage e)
  | unnamed {a : Arguments} (accepted : Accepted arguments files a) (operands : a.operands = []) :
      Complaint arguments env files (.message "missing filename")
  | renamed {a : Arguments} {path next : Text} {more : List Text}
      (accepted : Accepted arguments files a) (operands : a.operands = path :: next :: more) :
      Complaint arguments env files (.message ("filename redefinition old=" ++
        (Path.ofText path).toText ++ " new=" ++ (Path.ofText next).toText))
  | misconfigured {a : Arguments} {path : Text} {e : ConfigError}
      (accepted : Accepted arguments files a) (operands : a.operands = [path])
      (settings : callConfig env a = .error e) :
      Complaint arguments env files (.message (Failure.configuration e.message).message)
  | unassembled {a : Arguments} {path : Text} {config : Config} {e : AssemblyError}
      (names : Names arguments env files a path config)
      (failed : (callAssembly config files path).failure = some e) :
      Complaint arguments env files (.message e.failure.message)

/-- What is printed is what is told about one fault, which is no line of a table. -/
def TellsOnlyFault (arguments : List Text) (env : Environment) (files : FileTree)
    (stderr : Text) : Prop :=
  ∃ notice, Complaint arguments env files notice ∧ stderr = notice.text ∧
    ∀ m, notice = .message m → ¬IsTableLine m

/-- The file is assembled, but the file for its symbols cannot be opened. -/
def Unwritable (arguments : List Text) (env : Environment) (files : FileTree) : Prop :=
  ∃ a path config target error, Names arguments env files a path config ∧
    (callAssembly config files path).failure = none ∧ a.value? .symbols = some target ∧
    files.destination (Path.ofText target).toText = .error error

section TableLines

variable {m : Text}

lemma not_isTableLine_of_head? {c : Char} (hm : m.head? = some c) (hc : c ≠ 'l') :
    ¬IsTableLine m := by
  rintro (rfl | ⟨s, -, rfl⟩)
  · exact hc (Option.some.inj hm).symm
  · exact hc (Option.some.inj hm).symm

lemma not_mem_zeroPadded (width : Nat) (n : Int) : 'r' ∉ Text.zeroPadded width n := by
  intro h
  obtain h | h := mem_zeroPadded h
  · exact absurd h (by decide)
  · exact not_mem_ofInt (by decide) (by decide) n h

lemma reportLine_split (s : Symbol) :
    ∃ columns, s.reportLine = ("label=".toList ++ s.name) ++ columns ∧ 'r' ∉ columns := by
  have hpadding : ∀ n, 'r' ∉ List.replicate n ' ' := by
    intro n h
    exact absurd (List.eq_of_mem_replicate h) (by decide)
  have hnumber : 'r' ∉ Text.padLeft 4 (Text.ofInt s.offset) := by
    rw [Text.padLeft, List.mem_append, not_or]
    exact ⟨hpadding _, not_mem_ofInt (by decide) (by decide) s.offset⟩
  refine ⟨List.replicate (15 - s.name.length) ' ' ++ (" offset=".toList ++
    (Text.padLeft 4 (Text.ofInt s.offset) ++ (" line_num=".toList ++ Text.zeroPadded 3 s.line))),
    ?_, ?_⟩
  · unfold Symbol.reportLine Text.padRight
    simp only [List.append_assoc]
  · rw [List.mem_append, List.mem_append, List.mem_append, List.mem_append]
    simp only [not_or]
    exact ⟨hpadding _, by decide, hnumber, by decide, not_mem_zeroPadded 3 s.line⟩

/-- In a line of a table no blank comes before the letter r: only the name of a label can hold
one. -/
theorem not_mem_behind_space (h : IsTableLine m) {p q : Text} (he : m = p ++ ' ' :: q) :
    'r' ∉ q := by
  intro hr
  obtain rfl | ⟨s, hname, rfl⟩ := h
  · have hmem : 'r' ∈ reportHeader := by
      rw [he]
      exact List.mem_append_right p (List.mem_cons_of_mem ' ' hr)
    exact absurd hmem (by decide)
  · obtain ⟨columns, hsplit, hcolumns⟩ := reportLine_split s
    have hspace : ' ' ∉ "label=".toList ++ s.name := by
      intro h
      obtain h | h := List.mem_append.mp h
      · exact absurd h (by decide)
      · exact absurd (hname.2 ' ' h) (by decide)
    rw [hsplit] at he
    obtain ⟨x, -, hx⟩ | ⟨x, hx, hrest⟩ := List.append_eq_append_iff.mp he
    · apply hcolumns
      rw [hx]
      exact List.mem_append_right x (List.mem_cons_of_mem ' ' hr)
    · cases x with
      | nil =>
        apply hcolumns
        rw [List.nil_append] at hrest
        rw [← hrest]
        exact List.mem_cons_of_mem ' ' hr
      | cons d x =>
        obtain rfl := (List.cons.inj hrest).1
        apply hspace
        rw [hx]
        exact List.mem_append_right p List.mem_cons_self

end TableLines

section Notices

lemma join_cons (separator first : Text) (rest : List Text) :
    ∃ more, Text.join separator (first :: rest) = first ++ more := by
  cases rest with
  | nil => exact ⟨[], (List.append_nil first).symm⟩
  | cons second rest =>
    refine ⟨separator ++ Text.join separator (second :: rest), ?_⟩
    rw [Text.join, List.append_assoc]
    simp

lemma exists_report (d : Diagnostic) : ∃ more, d.report = d.headline ++ more := by
  unfold Diagnostic.report
  exact join_cons _ _ _

/-- The report of a diagnostic starts with another letter than a line of a table, or tells of an
error behind a blank. -/
lemma not_isTableLine_report (d : Diagnostic) : ¬IsTableLine d.report := by
  obtain ⟨more, hmore⟩ := exists_report d
  cases hl : d.location with
  | none =>
    have hhead : d.report.head? = some 'e' := by
      rw [hmore, Diagnostic.headline, hl]
      rfl
    exact not_isTableLine_of_head? hhead (by decide)
  | some l =>
    intro h
    have hsplit : d.report = (l.toText ++ [':']) ++ ' ' ::
        ("error: ".toList ++ d.cause.message ++ more) := by
      rw [hmore, Diagnostic.headline, hl]
      simp
    apply not_mem_behind_space h hsplit
    simp

variable {arguments : List Text} {env : Environment} {files : FileTree} {notice : Notice}

lemma not_isTableLine_failure (e : AssemblyError) : ¬IsTableLine e.failure.message := by
  have herror : ∀ m : Text, ¬IsTableLine ("error: ".toList ++ m) :=
    fun m => not_isTableLine_of_head? rfl (by decide)
  have hinternal : ∀ m : Text, ¬IsTableLine ("internal error: ".toList ++ m) :=
    fun m => not_isTableLine_of_head? rfl (by decide)
  have hconfiguration : ∀ m : Text, ¬IsTableLine ("error: invalid configuration: ".toList ++ m) :=
    fun m => not_isTableLine_of_head? rfl (by decide)
  cases e with
  | diagnostic d => exact not_isTableLine_report d
  | noByteOrderMark => exact hconfiguration _
  | unopened error =>
    cases error with
    | nullInEncoding => exact hconfiguration _
    | nullInPath => exact hconfiguration _
    | path error => exact herror _
    | encoding error => exact hinternal _

theorem not_isTableLine_of_complaint {m : Text}
    (h : Complaint arguments env files (.message m)) : ¬IsTableLine m := by
  cases h with
  | unassembled names failed => exact not_isTableLine_failure _
  | unnamed accepted operands => exact not_isTableLine_of_head? rfl (by decide)
  | renamed accepted operands => exact not_isTableLine_of_head? rfl (by decide)
  | misconfigured accepted operands settings => exact not_isTableLine_of_head? rfl (by decide)

lemma tellsOnlyFault_of_complaint {stderr : Text} (h : Complaint arguments env files notice)
    (htext : stderr = notice.text) : TellsOnlyFault arguments env files stderr := by
  refine ⟨notice, h, htext, ?_⟩
  rintro m rfl
  exact not_isTableLine_of_complaint h

lemma not_unwritable_of_complaint (h : Complaint arguments env files notice) :
    ¬Unwritable arguments env files := by
  rintro ⟨a, path, config, target, error, named, hreturns, -, -⟩
  have ⟨⟨hparsed, hrequest, hfault⟩, hoperands, hsettings⟩ := named
  cases h with
  | misread h =>
    rw [h] at hparsed
    cases hparsed
  | misvalued parsed no_request fault =>
    obtain rfl := Except.ok.inj (parsed.symm.trans hparsed)
    rw [fault] at hfault
    cases hfault
  | unnamed accepted operands =>
    obtain rfl := Except.ok.inj (accepted.parsed.symm.trans hparsed)
    rw [operands] at hoperands
    cases hoperands
  | renamed accepted operands =>
    obtain rfl := Except.ok.inj (accepted.parsed.symm.trans hparsed)
    rw [operands] at hoperands
    cases hoperands
  | misconfigured accepted operands settings =>
    obtain rfl := Except.ok.inj (accepted.parsed.symm.trans hparsed)
    rw [settings] at hsettings
    cases hsettings
  | unassembled names failed =>
    obtain ⟨rfl, rfl, rfl⟩ := names_unique names named
    rw [failed] at hreturns
    cases hreturns

end Notices

section Quiet

variable {arguments : List Text} {env : Environment} {files : FileTree} {trace : Failure → Text}
  {effect : Effect}

lemma report_quiet (f : Failure) (trace : Failure → Text) :
    f.report false trace = echo f.message := by
  cases f with
  | source r => rfl
  | system r => rfl
  | configuration r => rfl
  | internal r => exact List.append_nil _

lemma logged_quiet {a : Arguments} (h : a.has .verbose = false) (config : Config)
    (files : FileTree) (path : Text) : logged a config files path = [] := by
  rw [logged, h]
  rfl

lemma quiet_of_parsed {a : Arguments} (h : Arguments.parse arguments = .ok a)
    (hquiet : a.has .verbose = false) :
    ∀ b, Arguments.parse arguments = .ok b → b.has .verbose = false := by
  intro b hb
  obtain rfl := Except.ok.inj (h.symm.trans hb)
  exact hquiet

lemma exists_failed_of_exitCode
    (h : (Program.run arguments env files trace).toOption.map Effect.exitCode = some 1) :
    ∃ effect, Program.run arguments env files trace = .ok effect ∧ effect.exitCode ≠ 0 := by
  obtain ⟨effect, hrun, hcode⟩ := exists_effect_of_map h
  exact ⟨effect, hrun, by rw [hcode]; exact Nat.one_ne_zero⟩

lemma showsTable_of_printed (before : Text) (symbols : List Symbol) (after : Text) :
    ShowsTable (before ++ printedTable symbols ++ after) := by
  refine ⟨before, reportHeader, (symbols.map Symbol.reportLine).flatMap echo ++ after,
    Or.inl rfl, ?_⟩
  rw [printedTable, report, List.flatMap_cons]
  simp only [List.append_assoc]

/-- A quiet call that fails tells what is at fault and nothing else, just when the symbol file is
not the fault. If it is, lines of the table have been printed before. -/
theorem tells_only_fault_iff (arguments : List Text) (env : Environment) (files : FileTree)
    (trace : Failure → Text) (effect : Effect)
    (hrun : Program.run arguments env files trace = .ok effect)
    (quiet : ∀ a, Arguments.parse arguments = .ok a → a.has .verbose = false)
    (failed : effect.exitCode ≠ 0) :
    (TellsOnlyFault arguments env files effect.stderr ↔ ¬Unwritable arguments env files) ∧
      (Unwritable arguments env files → ShowsTable effect.stderr) := by
  have hcomplaint : ∀ notice, Complaint arguments env files notice → effect.stderr = notice.text →
      (TellsOnlyFault arguments env files effect.stderr ↔ ¬Unwritable arguments env files) ∧
        (Unwritable arguments env files → ShowsTable effect.stderr) := by
    intro notice h htext
    have hnot := not_unwritable_of_complaint h
    exact ⟨iff_of_true (tellsOnlyFault_of_complaint h htext) hnot, fun hu => absurd hu hnot⟩
  have houtcome := run_outcome arguments env files trace
  rw [hrun] at houtcome
  cases houtcome with
  | misread h => exact hcomplaint _ (.misread h) rfl
  | informed parsed request_eq => exact absurd rfl failed
  | misvalued parsed no_request fault => exact hcomplaint _ (.misvalued parsed no_request fault) rfl
  | unnamed accepted operands => exact hcomplaint _ (.unnamed accepted operands) rfl
  | renamed accepted operands => exact hcomplaint _ (.renamed accepted operands) rfl
  | misconfigured accepted operands settings =>
    apply hcomplaint _ (.misconfigured accepted operands settings)
    rw [Effect.fail, quiet _ accepted.parsed, report_quiet]
    rfl
  | unassembled names failed' =>
    apply hcomplaint _ (.unassembled names failed')
    have hquiet := quiet _ names.accepted.parsed
    rw [Effect.fail, logged_quiet hquiet, hquiet, report_quiet]
    rfl
  | reported names assembled unasked => exact absurd rfl failed
  | written names assembled asked destination content_eq => exact absurd rfl failed
  | unwritten names assembled asked failed' =>
    have hunwritable : Unwritable arguments env files :=
      ⟨_, _, _, _, _, names, assembled.returns, asked, failed'⟩
    refine ⟨iff_of_false ?_ (not_not.mpr hunwritable), fun _ => ?_⟩
    · rintro ⟨notice, hcomplaint, -⟩
      exact not_unwritable_of_complaint hcomplaint hunwritable
    · exact showsTable_of_printed _ _ _

end Quiet

/-- A label is declared twice, and the file for the symbols could not be opened either. -/
theorem repeated_label_told :
    let arguments : List Text := ["p".toList, "-s".toList, "d/q".toList]
    let files := ({} : FileTree).addFile [['p']] [0x61, 0x3A, 0x0A, 0x41, 0x3A, 0x0A]
    (∀ a, Arguments.parse arguments = .ok a → a.has .verbose = false) ∧
      ∃ effect, Program.run arguments {} files = .ok effect ∧ effect.exitCode ≠ 0 ∧
        TellsOnlyFault arguments {} files effect.stderr := by
  intro arguments files
  have hparsed : Arguments.parse arguments = .ok ⟨[⟨.symbols, "d/q"⟩], ["p".toList]⟩ := by
    decide +kernel
  have hsettings : callConfig {} ⟨[⟨.symbols, "d/q"⟩], ["p".toList]⟩ = .ok {} := by decide +kernel
  have hfailed : (callAssembly {} files "p").failure ≠ none := by decide +kernel
  have quiet := quiet_of_parsed hparsed rfl
  have hnot : ¬Unwritable arguments {} files := by
    rintro ⟨a, path, config, target, error, names, hreturns, -, -⟩
    obtain rfl := Except.ok.inj (hparsed.symm.trans names.accepted.parsed)
    obtain rfl := (List.cons.inj names.operands).1
    obtain rfl := Except.ok.inj (hsettings.symm.trans names.settings)
    exact hfailed hreturns
  obtain ⟨effect, hrun, failed⟩ : ∃ effect, Program.run arguments {} files = .ok effect ∧
      effect.exitCode ≠ 0 := exists_failed_of_exitCode (by decide +kernel)
  exact ⟨quiet, effect, hrun, failed,
    (tells_only_fault_iff arguments {} files Failure.noTrace effect hrun quiet failed).1.mpr hnot⟩

/-- One label, and a symbol file in a directory that is not there. -/
theorem table_shown_before_failure :
    ¬∀ (arguments : List Text) (env : Environment) (files : FileTree) (effect : Effect),
      (∀ a, Arguments.parse arguments = .ok a → a.has .verbose = false) →
        Program.run arguments env files = .ok effect → effect.exitCode ≠ 0 →
          ¬ShowsTable effect.stderr := by
  intro hall
  let arguments : List Text := ["p".toList, "-s".toList, "d/q".toList]
  let files := ({} : FileTree).addFile [['p']] [0x61, 0x3A, 0x0A]
  have hparsed : Arguments.parse arguments = .ok ⟨[⟨.symbols, "d/q"⟩], ["p".toList]⟩ := by
    decide +kernel
  obtain ⟨effect, hrun, failed⟩ : ∃ effect, Program.run arguments {} files = .ok effect ∧
      effect.exitCode ≠ 0 := exists_failed_of_exitCode (by decide +kernel)
  have hstderr : (Program.run arguments {} files).toOption.map Effect.stderr =
      some (echo reportHeader ++
        (echo "label=a               offset=   0 line_num=001" ++
          echo "error: [Errno 2] No such file or directory: 'd/q'")) := by
    decide +kernel
  rw [hrun] at hstderr
  apply hall arguments {} files effect (quiet_of_parsed hparsed rfl) hrun failed
  exact ⟨[], reportHeader, _, Or.inl rfl, Option.some.inj hstderr⟩

end OnePass.Proofs
