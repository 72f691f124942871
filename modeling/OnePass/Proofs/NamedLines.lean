import OnePass.Proofs.PrintedMessages

/-!
# Lines that carry the program's name

A message is cut into lines before it is printed, and each of them gets the name of the program in
front. Taking out control sequences neither touches the name nor makes a new line break. So all that
a quiet call reports can be cut into lines again, whatever the texts in its messages are, and every
line carries the name.
-/

namespace OnePass.Proofs

open scoped List

/-- The lines of a message: at least one, which is empty if the message is. -/
def messageLines (m : Text) : List Text := if m = [] then [[]] else Text.displayLines m

/-- What is reported by a call whose arguments are accepted. -/
inductive CallMessages (arguments : List Text) (env : Environment) (files : FileTree) :
    List Text → Prop
  | complaint {m : Text} (h : Complaint arguments env files (.message m)) :
      CallMessages arguments env files [m]
  | table {a : Arguments} {path : Text} {config : Config} {lines : List Text}
      (names : Names arguments env files a path config)
      (report : (callAssembly config files path).assembler.symbolReport = .ok lines)
      (writable : ¬Unwritable arguments env files) : CallMessages arguments env files lines
  | unwritten {a : Arguments} {path target : Text} {config : Config} {lines : List Text}
      {error : PathError} (names : Names arguments env files a path config)
      (report : (callAssembly config files path).assembler.symbolReport = .ok lines)
      (asked : a.value? .symbols = some target)
      (failed : files.destination (Path.ofText target).toText = .error error) :
      CallMessages arguments env files
        (lines ++ [(Failure.system (error.report (Path.ofText target).toText)).message])

/-- Some messages have been printed, each on lines of its own that carry the name of the program and
can be cut off again. -/
structure CarriesName (messages : List Text) (stderr : Text) : Prop where
  printed : stderr = messages.flatMap echo
  some_line : Text.displayLines stderr ≠ []
  named : ∀ l ∈ Text.displayLines stderr, lineStart <+: l
  cut : Text.displayLines stderr = messages.flatMap fun m => Text.displayLines (echo m)
  unnamed : ∀ m ∈ messages, '\x1b' ∉ m →
    (Text.displayLines (echo m)).map (List.drop lineStart.length) = messageLines m

/-- A call has ended, and what it reports stands on lines that carry the name of the program. -/
def ReportsNamed (arguments : List Text) (env : Environment) (files : FileTree)
    (result : Except CallError Effect) : Prop :=
  ∃ effect messages, result = .ok effect ∧ CallMessages arguments env files messages ∧
    CarriesName messages effect.stderr

section Cutting

lemma displayLines_pair (s : Text) :
    Text.displayLines ('\r' :: '\n' :: s) = Text.displayLines ('\n' :: s) := by
  have hfeed : Text.displayLines ('\n' :: s) = [] :: Text.displayLines s :=
    displayLines_append (List.forall_mem_nil _) s
  rw [hfeed]
  rfl

/-- Cutting a text takes out its line breaks and adds nothing. -/
theorem mem_of_mem_displayLines {s l : Text} (h : l ∈ Text.displayLines s) :
    ∀ c ∈ l, c ∈ s ∧ Text.isLineBreak c = false := by
  induction s generalizing l with
  | nil => cases h
  | cons d s ih =>
    have hrest : ∀ l ∈ Text.displayLines s, ∀ c ∈ l, c ∈ d :: s ∧ Text.isLineBreak c = false :=
      fun l hl c hc => ⟨List.mem_cons_of_mem d (ih hl c hc).1, (ih hl c hc).2⟩
    by_cases hpair : d = '\r' ∧ s.head? = some '\n'
    · obtain ⟨rfl, hhead⟩ := hpair
      obtain ⟨t, rfl⟩ := List.head?_eq_some_iff.mp hhead
      rw [displayLines_pair] at h
      exact hrest l h
    · rw [displayLines_cons fun hd hhead => hpair ⟨hd, hhead⟩] at h
      split_ifs at h with hbreak
      · obtain rfl | h := List.mem_cons.mp h
        · exact List.forall_mem_nil _
        · exact hrest l h
      · have hfirst : d ∈ d :: s ∧ Text.isLineBreak d = false :=
          ⟨List.mem_cons_self, Bool.eq_false_iff.mpr hbreak⟩
        cases hlines : Text.displayLines s with
        | nil =>
          rw [hlines] at h
          obtain rfl := List.mem_singleton.mp h
          exact List.forall_mem_singleton.mpr hfirst
        | cons first more =>
          rw [hlines] at h hrest
          obtain ⟨hstart, hmore⟩ := List.forall_mem_cons.mp hrest
          obtain rfl | h := List.mem_cons.mp h
          · exact List.forall_mem_cons.mpr ⟨hfirst, hstart⟩
          · exact hmore l h

lemma mem_of_mem_messageLines {m l : Text} (h : l ∈ messageLines m) :
    ∀ c ∈ l, c ∈ m ∧ Text.isLineBreak c = false := by
  unfold messageLines at h
  split_ifs at h
  · obtain rfl := List.mem_singleton.mp h
    exact List.forall_mem_nil _
  · exact mem_of_mem_displayLines h

lemma messageLines_ne_nil (m : Text) : messageLines m ≠ [] := by
  unfold messageLines
  split_ifs with hm
  · exact List.cons_ne_nil _ _
  · obtain ⟨c, s, rfl⟩ := List.exists_cons_of_ne_nil hm
    exact List.ne_nil_of_length_pos (length_displayLines_cons c s).1

lemma afterSequence?_sublist {s rest : Text} (h : Text.afterSequence? s = some rest) :
    rest <+ s := by
  unfold Text.afterSequence? at h
  split at h
  · cases h
  · rename_i c t hs
    split_ifs at h
    obtain rfl := Option.some.inj h
    have hdropped : c :: t <+ s := by
      rw [← hs]
      exact (List.dropWhile_sublist _).trans (List.dropWhile_sublist _)
    exact (List.sublist_cons_self c t).trans hdropped

lemma stripSequences_sublist (s : Text) : Text.stripSequences s <+ s := by
  fun_induction Text.stripSequences s with
  | case1 => exact List.Sublist.refl _
  | case2 s rest h ih =>
    exact ih.trans ((afterSequence?_sublist h).trans (List.sublist_append_right ['\x1b', '['] s))
  | case3 s h ih => exact ih.cons_cons _
  | case4 c s hc ih => exact ih.cons_cons _

end Cutting

section Printing

/-- The lines of a message as they are printed. -/
def printedLines (m : Text) : List Text :=
  (messageLines m).map fun l => lineStart ++ Text.stripSequences l

lemma stripSequences_lineStart (l : Text) :
    Text.stripSequences (lineStart ++ l) = lineStart ++ Text.stripSequences l :=
  stripSequences_append (by decide) l

lemma echo_eq (m : Text) : echo m = (printedLines m).flatMap (· ++ ['\n']) := by
  have hlines : echo m = (messageLines m).flatMap fun l =>
      Text.stripSequences (lineStart ++ l) ++ ['\n'] := by
    unfold echo messageLines
    cases m with
    | nil => rfl
    | cons c s =>
      rw [if_neg (List.cons_ne_nil c s)]
      cases hcut : Text.displayLines (c :: s) with
      | nil => exact absurd (congrArg List.length hcut) (length_displayLines_cons c s).1.ne'
      | cons l more => rfl
  rw [hlines, printedLines, List.flatMap_map]
  exact List.flatMap_congr fun l _ => by rw [stripSequences_lineStart]

lemma not_isLineBreak_of_mem_printedLines {m l : Text} (h : l ∈ printedLines m) :
    ∀ c ∈ l, Text.isLineBreak c = false := by
  obtain ⟨line, hline, rfl⟩ := List.mem_map.mp h
  have hname : ∀ c ∈ lineStart, Text.isLineBreak c = false :=
    List.all_iff_forall_prop.mp (by decide)
  refine List.forall_mem_append.mpr ⟨hname, fun c hc => ?_⟩
  exact (mem_of_mem_messageLines hline c ((stripSequences_sublist line).subset hc)).2

/-- What is printed for some messages falls into the lines of each of them again. -/
theorem displayLines_echo (messages : List Text) :
    Text.displayLines (messages.flatMap echo) = messages.flatMap printedLines := by
  have hecho : messages.flatMap echo = (messages.flatMap printedLines).flatMap (· ++ ['\n']) := by
    rw [List.flatMap_assoc]
    exact List.flatMap_congr fun m _ => echo_eq m
  rw [hecho]
  apply displayLines_lines
  intro l hl
  obtain ⟨m, -, hm⟩ := List.mem_flatMap.mp hl
  exact not_isLineBreak_of_mem_printedLines hm

/-- Without the names of the program the lines that are printed for a message are its lines. -/
theorem unnamed_printedLines {m : Text} (h : '\x1b' ∉ m) :
    (printedLines m).map (List.drop lineStart.length) = messageLines m := by
  rw [printedLines, List.map_map]
  refine (List.map_congr_left fun l hl => ?_).trans (List.map_id _)
  have hescape : '\x1b' ∉ l := fun hc => h (mem_of_mem_messageLines hl _ hc).1
  rw [Function.comp_apply, List.drop_left, stripSequences_of_not_mem hescape, id]

theorem carriesName_of_messages {messages : List Text} (hne : messages ≠ []) :
    CarriesName messages (messages.flatMap echo) := by
  have hcut := displayLines_echo messages
  have hone : ∀ m, Text.displayLines (echo m) = printedLines m := by
    intro m
    have h := displayLines_echo [m]
    rwa [List.flatMap_singleton, List.flatMap_singleton] at h
  refine ⟨rfl, ?_, ?_, ?_, ?_⟩
  · obtain ⟨m, more, rfl⟩ := List.exists_cons_of_ne_nil hne
    rw [hcut, List.flatMap_cons]
    intro h
    have hnil := (List.append_eq_nil_iff.mp h).1
    exact messageLines_ne_nil m (List.map_eq_nil_iff.mp hnil)
  · rw [hcut]
    intro l hl
    obtain ⟨m, -, hm⟩ := List.mem_flatMap.mp hl
    obtain ⟨line, -, rfl⟩ := List.mem_map.mp hm
    exact List.prefix_append _ _
  · rw [hcut]
    exact List.flatMap_congr fun m _ => (hone m).symm
  · intro m _ hescape
    rw [hone]
    exact unnamed_printedLines hescape

end Printing

section Calls

variable {arguments : List Text} {env : Environment} {files : FileTree}

lemma not_unwritable_of_unasked {a : Arguments} {path : Text} {config : Config}
    (names : Names arguments env files a path config) (h : a.value? .symbols = none) :
    ¬Unwritable arguments env files := by
  rintro ⟨a', path', config', target, error, names', -, asked, -⟩
  obtain ⟨rfl, rfl, rfl⟩ := names_unique names names'
  cases h.symm.trans asked

lemma not_unwritable_of_destination {a : Arguments} {path target : Text} {config : Config}
    {place : List Text} (names : Names arguments env files a path config)
    (asked : a.value? .symbols = some target)
    (h : files.destination (Path.ofText target).toText = .ok place) :
    ¬Unwritable arguments env files := by
  rintro ⟨a', path', config', target', error, names', -, asked', failed⟩
  obtain ⟨rfl, rfl, rfl⟩ := names_unique names names'
  obtain rfl := Option.some.inj (asked.symm.trans asked')
  cases h.symm.trans failed

lemma reportsNamed_of_messages {effect : Effect} {messages : List Text}
    (h : CallMessages arguments env files messages) (hne : messages ≠ [])
    (hprinted : effect.stderr = messages.flatMap echo) :
    ReportsNamed arguments env files (.ok effect) := by
  refine ⟨effect, messages, rfl, h, ?_⟩
  rw [hprinted]
  exact carriesName_of_messages hne

lemma reportsNamed_of_complaint {effect : Effect} {m : Text}
    (h : Complaint arguments env files (.message m)) (hprinted : effect.stderr = echo m) :
    ReportsNamed arguments env files (.ok effect) := by
  apply reportsNamed_of_messages (.complaint h) (List.cons_ne_nil m [])
  rw [hprinted, List.flatMap_singleton]

/-- A quiet call with accepted arguments prints on standard error what it reports and nothing else.
That makes at least one line, every line carries the name of the program, and the lines of each
message can be read off those printed for it. -/
theorem quiet_call_reports_named (arguments : List Text) (env : Environment) (files : FileTree)
    (trace : Failure → Text) (a : Arguments) (accepted : Accepted arguments files a)
    (quiet : a.has .verbose = false) :
    ReportsNamed arguments env files (Program.run arguments env files trace) := by
  have hquiet := quiet_of_parsed accepted.parsed quiet
  have houtcome := run_outcome arguments env files trace
  generalize Program.run arguments env files trace = result at houtcome
  cases houtcome with
  | misread h => cases h.symm.trans accepted.parsed
  | informed parsed request_eq =>
    obtain rfl := Except.ok.inj (parsed.symm.trans accepted.parsed)
    cases request_eq.symm.trans accepted.no_request
  | misvalued parsed no_request fault =>
    obtain rfl := Except.ok.inj (parsed.symm.trans accepted.parsed)
    cases fault.symm.trans accepted.no_fault
  | nullInPath parsed no_request fault =>
    obtain rfl := Except.ok.inj (parsed.symm.trans accepted.parsed)
    cases fault.symm.trans accepted.no_fault
  | unnamed accepted operands => exact reportsNamed_of_complaint (.unnamed accepted operands) rfl
  | renamed accepted operands => exact reportsNamed_of_complaint (.renamed accepted operands) rfl
  | misconfigured accepted operands settings =>
    apply reportsNamed_of_complaint (.misconfigured accepted operands settings)
    rw [Effect.fail, hquiet _ accepted.parsed, report_quiet]
    rfl
  | unassembled names failed =>
    apply reportsNamed_of_complaint (.unassembled names failed)
    have hswitch := hquiet _ names.accepted.parsed
    rw [Effect.fail, logged_quiet hswitch, hswitch, report_quiet]
    rfl
  | reported names assembled unasked =>
    have hwritable := not_unwritable_of_unasked names unasked
    apply reportsNamed_of_messages (.table names assembled.reports.report hwritable)
      (List.cons_ne_nil _ _)
    rw [logged_quiet (hquiet _ names.accepted.parsed)]
    rfl
  | unwritten names assembled asked failed =>
    apply reportsNamed_of_messages (.unwritten names assembled.reports.report asked failed)
      (List.append_ne_nil_of_right_ne_nil _ (List.cons_ne_nil _ []))
    have hswitch := hquiet _ names.accepted.parsed
    rw [Effect.fail, logged_quiet hswitch, hswitch, report_quiet, List.flatMap_append,
      List.flatMap_singleton]
    rfl
  | written names assembled asked destination content_eq =>
    have hwritable := not_unwritable_of_destination names asked destination
    apply reportsNamed_of_messages (.table names assembled.reports.report hwritable)
      (List.cons_ne_nil _ _)
    have hswitch := hquiet _ names.accepted.parsed
    rw [logged_quiet hswitch, hswitch]
    exact List.append_nil _

/-- Line breaks that end no line of a source, in the name of the file and in an operand. -/
theorem broken_name_and_operand_named :
    let arguments : List Text := ["p\x0bq".toList]
    let content : Text := "a: jmp b\x0cc\n"
    let files := ({} : FileTree).addFile ["p\x0bq".toList]
      (content.map fun c => UInt8.ofNat c.toNat)
    let a : Arguments := ⟨[], arguments⟩
    Accepted arguments files a ∧ a.has .verbose = false ∧
      ReportsNamed arguments {} files (Program.run arguments {} files) ∧
        (Program.run arguments {} files).toOption.map (Text.displayLines ∘ Effect.stderr) = some
          ["linasm: p".toList, "linasm: q:1: error: unknown mnemonic 'jmp'".toList,
            "linasm:     a: jmp b".toList, "linasm: c".toList] := by
  intro arguments content files a
  have accepted : Accepted arguments files a := ⟨by decide +kernel, rfl, by decide +kernel⟩
  exact ⟨accepted, rfl, quiet_call_reports_named arguments {} files Failure.noTrace a accepted rfl,
    by decide +kernel⟩

end Calls

end OnePass.Proofs
