import OnePass.Proofs.PrintedMessages
import OnePass.Proofs.QuotedText

/-!
# The limit given as an option

The option for the limit on the length of a line takes the place of the limit that the environment
asks for, but the environment is judged before that. An environment whose limit is no positive
integer is refused even if the option is given. Apart from that refusal nothing that a call does
tells what the limit of the environment was.
-/

namespace OnePass.Proofs

/-- What is wrong with the limit that an environment asks for. -/
def limitFault? (env : Environment) : Option ConfigError :=
  match env.lineLimit with
  | .error e => some e
  | .ok limit => if limit < 1 then some (.limitNotPositive limit) else none

/-- The settings of a call with a limit, in an environment that may ask for an encoding. -/
def settingsWith (env : Environment) (limit : Int) : Config where
  lineLimit := limit
  encoding := (Environment.value? env.encoding).getD ({} : Config).encoding

def checked (c : Config) : Except ConfigError Config := c.check.map fun _ => c

/-- Accepted arguments that name one file: the call gets as far as its settings. -/
def ReachesSettings (arguments : List Text) (files : FileTree) : Prop :=
  ∃ a path, Accepted arguments files a ∧ a.operands = [path]

section Settings

lemma check_of_positive {c : Config} {n : Int} (hc : 1 ≤ c.lineLimit) (hn : 1 ≤ n) :
    ({ c with lineLimit := n } : Config).check = c.check := by
  unfold Config.check Config.marks
  dsimp only
  rw [if_neg (Int.not_lt.mpr hn), if_neg (Int.not_lt.mpr hc)]

variable {env : Environment} {e : ConfigError}

lemma envConfig_of_limit {limit : Int} (h : env.lineLimit = .ok limit) :
    env.config = checked (settingsWith env limit) := by
  unfold Environment.config checked settingsWith
  rw [h]
  dsimp only
  split
  · rename_i e hcheck
    rw [hcheck]
    rfl
  · rename_i hcheck
    rw [hcheck]
    rfl

lemma check_settingsWith (env : Environment) (limit : Int) :
    (settingsWith env limit).check =
      if limit < 1 then .error (.limitNotPositive limit)
      else if '\x00' ∈ (settingsWith env limit).encoding then .error .nullInEncoding
      else if (Codec.ofName? (settingsWith env limit).encoding).isNone then
        .error (.unknownEncoding (settingsWith env limit).encoding)
      else .ok () := rfl

lemma config_of_limitFault (h : limitFault? env = some e) (limit : Option Int) :
    Program.config env limit = .error e := by
  have henv : env.config = .error e := by
    unfold limitFault? at h
    cases hl : env.lineLimit with
    | error e' =>
      rw [hl] at h
      obtain rfl := Option.some.inj h
      unfold Environment.config
      rw [hl]
    | ok l =>
      rw [hl] at h
      dsimp only at h
      split_ifs at h with hless
      obtain rfl := Option.some.inj h
      rw [envConfig_of_limit hl, checked, check_settingsWith, if_pos hless]
      rfl
  unfold Program.config
  rw [henv]

lemma exists_limit_of_usable (h : limitFault? env = none) :
    ∃ limit, env.lineLimit = .ok limit ∧ 1 ≤ limit := by
  unfold limitFault? at h
  cases hl : env.lineLimit with
  | error e =>
    rw [hl] at h
    cases h
  | ok limit =>
    rw [hl] at h
    dsimp only at h
    split_ifs at h with hless
    exact ⟨limit, rfl, Int.not_lt.mp hless⟩

lemma config_of_usable (h : limitFault? env = none) {n : Int} (hn : 1 ≤ n) :
    Program.config env (some n) = checked (settingsWith env n) := by
  obtain ⟨limit, hl, hlimit⟩ := exists_limit_of_usable h
  have hcheck : (settingsWith env n).check = (settingsWith env limit).check :=
    check_of_positive (c := settingsWith env limit) hlimit hn
  unfold Program.config
  rw [envConfig_of_limit hl, checked, checked, ← hcheck]
  cases hc : (settingsWith env n).check with
  | error e => rfl
  | ok _ =>
    have hlimited : ({ settingsWith env limit with lineLimit := n } : Config).check = .ok () := hc
    dsimp only [Except.map]
    rw [hlimited]
    rfl

lemma error_of_usable (h : limitFault? env = none) {n : Int} (hn : 1 ≤ n)
    (he : Program.config env (some n) = .error e) :
    e = .nullInEncoding ∨ ∃ name, e = .unknownEncoding name := by
  rw [config_of_usable h hn, checked, check_settingsWith, if_neg (Int.not_lt.mpr hn)] at he
  split_ifs at he
  · exact Or.inl (Except.error.inj he).symm
  · exact Or.inr ⟨_, (Except.error.inj he).symm⟩
  · cases he

lemma exists_value_of_has {a : Arguments} {switch : Switch} (h : a.has switch = true) :
    ∃ value, a.value? switch = some value := by
  obtain ⟨g, hg, hswitch⟩ := List.any_eq_true.mp h
  have hfound : (a.given.reverse.find? fun g => g.switch = switch).isSome = true :=
    List.find?_isSome.mpr ⟨g, List.mem_reverse.mpr hg, hswitch⟩
  obtain ⟨last, hlast⟩ := Option.isSome_iff_exists.mp hfound
  exact ⟨last.value, by rw [Arguments.value?, hlast, Option.map_some]⟩

lemma exists_given_limit {a : Arguments} {files : FileTree} (no_fault : a.valueError? files = none)
    (given : a.has .maxLineLength = true) :
    ∃ n, 1 ≤ n ∧ (a.value? .maxLineLength).bind Text.integer? = some n := by
  obtain ⟨value, hvalue⟩ := exists_value_of_has given
  obtain ⟨g, hg, hswitch, -⟩ := mem_given_of_value? hvalue
  have hfault := List.findSome?_eq_none_iff.mp (Option.or_eq_none_iff.mp no_fault).1 g hg
  rw [hswitch, hvalue, Option.getD_some, Switch.valueError?] at hfault
  rw [hvalue, Option.bind_some]
  cases hn : Text.integer? value with
  | none =>
    rw [hn] at hfault
    cases hfault
  | some n =>
    rw [hn] at hfault
    dsimp only at hfault
    split_ifs at hfault with hless
    exact ⟨n, Int.not_lt.mp hless, rfl⟩

end Settings

section Calls

variable {arguments : List Text} {env env' : Environment} {files : FileTree}
  {trace : Failure → Text} {a : Arguments}

lemma run_of_accepted (accepted : Accepted arguments files a) :
    Program.run arguments env files trace = .ok (Program.perform a env files trace) := by
  unfold Program.run
  simp only [accepted.parsed, accepted.no_request, accepted.no_fault]

/-- A call sees nothing of its environment but the settings. -/
lemma run_of_same_settings
    (h : ∀ a path, Accepted arguments files a → a.operands = [path] →
      callConfig env a = callConfig env' a) :
    Program.run arguments env files trace = Program.run arguments env' files trace := by
  have hperform : ∀ a, Accepted arguments files a →
      Program.perform a env files trace = Program.perform a env' files trace := by
    intro a accepted
    unfold Program.perform
    match ho : a.operands with
    | [] => rfl
    | path :: next :: more => rfl
    | [path] =>
      have hsettings := h a path accepted ho
      unfold callConfig at hsettings
      dsimp only
      rw [hsettings]
  unfold Program.run
  cases hparsed : Arguments.parse arguments with
  | error e => rfl
  | ok a =>
    cases hrequest : a.request? with
    | some request =>
      simp only [hrequest]
      cases request
      all_goals rfl
    | none =>
      cases hfault : a.valueError? files with
      | some fault =>
        simp only [hrequest, hfault]
        cases fault
        all_goals rfl
      | none => simp only [hrequest, hfault, hperform a ⟨hparsed, hrequest, hfault⟩]

/-- Whatever option is given, an environment whose limit cannot be used is refused. -/
theorem run_of_limitFault {path : Text} {e : ConfigError} (accepted : Accepted arguments files a)
    (operands : a.operands = [path]) (h : limitFault? env = some e) :
    Program.run arguments env files trace =
      .ok (.fail files (a.has .verbose) trace [] (.configuration e.message)) := by
  rw [run_of_accepted accepted, Program.perform, operands]
  dsimp only
  rw [config_of_limitFault h]

end Calls

section Refusals

/-- The faults of a limit. -/
inductive IsLimitFault : ConfigError → Prop
  | notInteger (text : Text) : IsLimitFault (.limitNotInteger text)
  | notPositive (limit : Int) : IsLimitFault (.limitNotPositive limit)

/-- The message that refuses settings. -/
def refusal (e : ConfigError) : Text := (Failure.configuration e.message).message

/-- What the refusal of settings starts with. -/
def refusalHead : Text := "error: invalid configuration: "

variable {env : Environment} {e e' : ConfigError}

lemma isLimitFault_of_limitFault? (h : limitFault? env = some e) : IsLimitFault e := by
  unfold limitFault? Environment.lineLimit at h
  cases hv : Environment.value? env.maxLineLength with
  | none =>
    rw [hv] at h
    cases h
  | some text =>
    rw [hv] at h
    cases hi : Text.integer? text with
    | none =>
      simp only [hi] at h
      obtain rfl := Option.some.inj h
      exact .notInteger text
    | some limit =>
      simp only [hi] at h
      split_ifs at h
      obtain rfl := Option.some.inj h
      exact .notPositive limit

lemma isOneLine_refusalHead : IsOneLine refusalHead := isOneLine_of_all (by decide)

lemma isOneLine_refusal (h : IsLimitFault e) : IsOneLine (refusal e) := by
  refine isOneLine_append isOneLine_refusalHead ?_
  cases h with
  | notInteger text => exact isOneLine_append (isOneLine_of_all (by decide)) (isOneLine_quoted text)
  | notPositive limit =>
    refine isOneLine_append (isOneLine_of_all (by decide)) ?_
    exact isOneLine_of_isPrintableAscii fun c hc => isPrintableAscii_ofInt hc

lemma ofInt_injective : Function.Injective Text.ofInt :=
  Function.LeftInverse.injective number_ofInt

lemma refusal_injective (h : IsLimitFault e) (h' : IsLimitFault e') (hr : refusal e = refusal e') :
    e = e' := by
  have hmessage : e.message = e'.message := List.append_cancel_left hr
  cases h with
  | notInteger text =>
    cases h' with
    | notInteger text' => rw [quoted_injective (List.append_cancel_left hmessage)]
    | notPositive limit' => exact absurd (List.cons.inj hmessage).1 (by decide)
  | notPositive limit =>
    cases h' with
    | notInteger text' => exact absurd (List.cons.inj hmessage).1 (by decide)
    | notPositive limit' => rw [ofInt_injective (List.append_cancel_left hmessage)]

lemma refusal_start (h : IsLimitFault e) :
    ∃ c rest, (c = 'L' ∨ c = 'm') ∧ refusal e = (refusalHead ++ [c]) ++ rest := by
  have hsplit : ∀ c rest, e.message = c :: rest → refusal e = (refusalHead ++ [c]) ++ rest := by
    intro c rest hm
    rw [List.append_assoc, List.singleton_append, ← hm]
    rfl
  cases h with
  | notInteger text => exact ⟨'L', _, Or.inl rfl, hsplit 'L' _ rfl⟩
  | notPositive limit => exact ⟨'m', _, Or.inr rfl, hsplit 'm' _ rfl⟩

lemma ne_echo_refusal (h : IsLimitFault e) {p stderr : Text} (hlen : p.length ≤ 31)
    (hp : ¬p <+: refusalHead ++ ['L']) (hp' : ¬p <+: refusalHead ++ ['m'])
    (hstart : lineStart ++ p <+: stderr) : stderr ≠ echo (refusal e) := by
  rintro rfl
  obtain ⟨c, rest, hc, hsplit⟩ := refusal_start h
  rw [echo_of_isOneLine (isOneLine_refusal h), List.append_assoc, List.prefix_append_right_inj,
    hsplit, List.append_assoc] at hstart
  have hlength : (refusalHead ++ [c]).length = 31 := rfl
  have hhead := List.prefix_of_prefix_length_le hstart (List.prefix_append _ _) (hlength ▸ hlen)
  obtain rfl | rfl := hc
  · exact hp hhead
  · exact hp' hhead

lemma echo_refusal_ne (h : IsLimitFault e) {c : Char} {rest : Text} (hplain : IsPrintableAscii c)
    (hc : c ≠ 'L') (hc' : c ≠ 'm') : echo (refusalHead ++ c :: rest) ≠ echo (refusal e) := by
  have hline : IsOneLine (refusalHead ++ [c]) :=
    isOneLine_append isOneLine_refusalHead
      (isOneLine_of_isPrintableAscii (List.forall_mem_singleton.mpr hplain))
  have hne : refusalHead ++ [c] ≠ [] := List.append_ne_nil_of_right_ne_nil _ (List.cons_ne_nil c [])
  have hstart := echo_starts hline hne rest
  rw [List.append_assoc refusalHead, List.singleton_append] at hstart
  have hlength : (refusalHead ++ [c]).length ≤ 31 := Nat.le_refl 31
  have hother : ∀ {d}, c ≠ d → ¬refusalHead ++ [c] <+: refusalHead ++ [d] := by
    intro d hd hprefix
    rw [List.prefix_append_right_inj, List.cons_prefix_cons] at hprefix
    exact hd hprefix.1
  exact ne_echo_refusal h hlength (hother hc) (hother hc') hstart

lemma echo_failure_ne_refusal (h : IsLimitFault e) {failure : AssemblyError}
    (hfailure : FileFailure failure) (hcode : failure.failure.exitCode = 1) :
    echo failure.failure.message ≠ echo (refusal e) := by
  cases hfailure with
  | unreadable file reason =>
    have hline : IsOneLine "error: cannot read ".toList := isOneLine_of_all (by decide)
    have hstart := echo_starts hline (List.cons_ne_nil _ _) (Cause.named file ++ ": " ++ reason)
    exact ne_echo_refusal h (by decide) (by decide) (by decide) hstart
  -- The name of a file can be any text, so that the headline tells nothing; what follows it does.
  | line shows =>
    obtain ⟨q, hq, hreport⟩ := report_of_showsMore shows
    change echo (Diagnostic.report _) ≠ _
    rw [hreport]
    exact echo_ne_of_break (isOneLine_refusal h) _ hq
  | unmarked => exact echo_refusal_ne h (c := 'U') (by decide) (by decide) (by decide)
  | nullInEncoding => exact echo_refusal_ne h (c := 'e') (by decide) (by decide) (by decide)
  | nullInPath => exact echo_refusal_ne h (c := 'e') (by decide) (by decide) (by decide)
  | conversion error => cases hcode

end Refusals

section Effects

variable {arguments : List Text} {env env' : Environment} {files : FileTree}
  {trace : Failure → Text}

lemma logged_ne_refusal {a : Arguments} (hverbose : a.has .verbose = true) (config : Config)
    (path rest : Text) {e : ConfigError} (h : IsLimitFault e) :
    logged a config files path ++ rest ≠ echo (refusal e) := by
  have hevents : ∃ more, (callAssembly config files path).events =
      .opening (Path.ofText path).toText :: more := by
    unfold callAssembly Assembler.assembleFile
    cases hread : files.readText (Path.ofText path).toText config.encoding with
    | error error => exact ⟨[], by simp only [hread]⟩
    | ok source => exact ⟨_, by simp only [hread]; rfl⟩
  obtain ⟨more, hmore⟩ := hevents
  refine ne_echo_refusal h (p := "DEBUG: ") (by decide) (by decide) (by decide) ?_
  rw [logged, hmore, Program.log, if_pos hverbose, List.flatMap_cons, logLine]
  simp only [List.append_assoc]
  rw [List.prefix_append_right_inj]
  exact List.prefix_append _ _

/-- What a call prints that fails with another fault than that of the limit. -/
lemma stderr_ne_refusal {a : Arguments} {path : Text} (accepted : Accepted arguments files a)
    (operands : a.operands = [path]) (given : a.has .maxLineLength = true)
    (usable : limitFault? env = none) {effect : Effect}
    (hrun : Program.run arguments env files trace = .ok effect) (hcode : effect.exitCode = 1)
    {e : ConfigError} (h : IsLimitFault e) : effect.stderr ≠ echo (refusal e) := by
  have houtcome := run_outcome arguments env files trace
  rw [hrun] at houtcome
  cases houtcome with
  | misread hparse =>
    rw [accepted.parsed] at hparse
    cases hparse
  | informed parsed request => cases hcode
  | misvalued parsed no_request fault =>
    obtain rfl := Except.ok.inj (accepted.parsed.symm.trans parsed)
    rw [accepted.no_fault] at fault
    cases fault
  | unnamed accepted' operands' =>
    obtain rfl := accepted_unique accepted accepted'
    rw [operands] at operands'
    cases operands'
  | renamed accepted' operands' =>
    obtain rfl := accepted_unique accepted accepted'
    rw [operands] at operands'
    cases operands'
  | misconfigured accepted' operands' settings =>
    obtain rfl := accepted_unique accepted accepted'
    obtain ⟨n, hn, hlimit⟩ := exists_given_limit accepted.no_fault given
    rw [callConfig, hlimit] at settings
    obtain rfl | ⟨name, rfl⟩ := error_of_usable usable hn settings
    · change echo (refusal .nullInEncoding) ≠ _
      exact echo_refusal_ne h (c := 'e') (by decide) (by decide) (by decide)
    · change echo (refusal (.unknownEncoding name)) ≠ _
      exact echo_refusal_ne h (c := 'u') (by decide) (by decide) (by decide)
  | unassembled names failed =>
    obtain rfl := accepted_unique accepted names.accepted
    cases hverbose : a.has .verbose with
    | true => exact logged_ne_refusal hverbose _ _ _ h
    | false =>
      have hstderr := echo_failure_ne_refusal h (fileFailure_of_assembleFile failed) hcode
      rw [Effect.fail, logged_quiet hverbose, report_quiet]
      exact hstderr
  | reported names assembled unasked => cases hcode
  | unwritten names assembled asked failed =>
    obtain rfl := accepted_unique accepted names.accepted
    cases hverbose : a.has .verbose with
    | true =>
      rw [Effect.fail, List.append_assoc]
      exact logged_ne_refusal hverbose _ _ _ h
    | false =>
      have hheader : IsOneLine reportHeader := isOneLine_of_all (by decide)
      have hstart := echo_starts hheader (List.cons_ne_nil _ _) []
      rw [List.append_nil] at hstart
      rw [Effect.fail, logged_quiet hverbose, printedTable, report, List.flatMap_cons,
        List.nil_append, List.append_assoc]
      exact ne_echo_refusal h (by decide) (by decide) (by decide)
        (hstart.trans (List.prefix_append _ _))
  | written names assembled asked destination content_eq => cases hcode

lemma limitFault?_of_same_run {a : Arguments} {path : Text} (accepted : Accepted arguments files a)
    (operands : a.operands = [path]) (given : a.has .maxLineLength = true)
    (hsame : Program.run arguments env' files trace = Program.run arguments env files trace)
    {e : ConfigError} (h : limitFault? env = some e) : limitFault? env' = some e := by
  have he := isLimitFault_of_limitFault? h
  rw [run_of_limitFault accepted operands h] at hsame
  cases h' : limitFault? env' with
  | none => exact absurd rfl (stderr_ne_refusal accepted operands given h' hsame rfl he)
  | some e' =>
    have he' := isLimitFault_of_limitFault? h'
    rw [run_of_limitFault accepted operands h'] at hsame
    have hstderr : echo (refusal e') = echo (refusal e) :=
      congrArg Effect.stderr (Except.ok.inj hsame)
    rw [echo_of_isOneLine (isOneLine_refusal he), echo_of_isOneLine (isOneLine_refusal he')]
      at hstderr
    have hrefusal := List.append_cancel_left (List.append_cancel_right hstderr)
    rw [refusal_injective he' he hrefusal]

/-- Settings specification. A call whose arguments give the limit does the same in two environments
that ask for the same encoding just when it does not get as far as its settings, or the limits of
the two environments can both be used, or they have the same fault. -/
theorem limit_overridden_iff (arguments : List Text) (env env' : Environment) (files : FileTree)
    (trace : Failure → Text)
    (given : ∀ a, Arguments.parse arguments = .ok a → a.has .maxLineLength = true)
    (same : env'.encoding = env.encoding) :
    Program.run arguments env files trace = Program.run arguments env' files trace ↔
      (ReachesSettings arguments files → limitFault? env = limitFault? env') := by
  constructor
  · rintro hsame ⟨a, path, accepted, operands⟩
    have hgiven := given a accepted.parsed
    cases h : limitFault? env with
    | some e => exact (limitFault?_of_same_run accepted operands hgiven hsame.symm h).symm
    | none =>
      cases h' : limitFault? env' with
      | some e' =>
        rw [limitFault?_of_same_run accepted operands hgiven hsame h'] at h
        cases h
      | none => rfl
  · intro hfault
    apply run_of_same_settings
    intro a path accepted operands
    obtain ⟨n, hn, hlimit⟩ := exists_given_limit accepted.no_fault (given a accepted.parsed)
    have hfaults := hfault ⟨a, path, accepted, operands⟩
    rw [callConfig, callConfig, hlimit]
    cases h : limitFault? env with
    | some e => rw [config_of_limitFault h, config_of_limitFault (hfaults ▸ h)]
    | none =>
      rw [config_of_usable h hn, config_of_usable (hfaults ▸ h) hn, settingsWith, settingsWith,
        same]

end Effects

/-- A limit given beside an empty one and beside one of other digits. -/
theorem usable_limits_overridden :
    let arguments : List Text := ["--max-line-length".toList, "80".toList, "p".toList]
    let files := ({} : FileTree).addFile [['p']] [0x61, 0x3A, 0x0A]
    (∀ a, Arguments.parse arguments = .ok a → a.has .maxLineLength = true) ∧
      ReachesSettings arguments files ∧
        Program.run arguments { maxLineLength := some "" } files =
          Program.run arguments { maxLineLength := some "٢" } files := by
  intro arguments files
  have hparsed : Arguments.parse arguments = .ok ⟨[⟨.maxLineLength, "80"⟩], ["p".toList]⟩ := by
    decide +kernel
  have given : ∀ a, Arguments.parse arguments = .ok a → a.has .maxLineLength = true := by
    intro a ha
    obtain rfl := Except.ok.inj (hparsed.symm.trans ha)
    rfl
  have hfault : limitFault? { maxLineLength := some "" } =
      limitFault? { maxLineLength := some "٢" } := by
    decide +kernel
  refine ⟨given, ⟨_, _, ⟨hparsed, rfl, by decide +kernel⟩, rfl⟩, ?_⟩
  exact (limit_overridden_iff arguments { maxLineLength := some "" } { maxLineLength := some "٢" }
    files Failure.noTrace given rfl).mpr fun _ => hfault

/-- A limit that is no number, beside none. -/
theorem limit_not_overridden :
    ¬∀ (value : Text) (more : List Text) (env env' : Environment) (files : FileTree),
      Switch.maxLineLength.valueError? files value = none → env'.encoding = env.encoding →
        Program.run ("--max-line-length".toList :: value :: more) env files =
          Program.run ("--max-line-length".toList :: value :: more) env' files := by
  intro hall
  let files := ({} : FileTree).addFile [['p']] [0x61, 0x3A, 0x0A]
  let arguments : List Text := ["--max-line-length".toList, "80".toList, "p".toList]
  have hsame := hall "80" ["p".toList] { maxLineLength := some "wide" } {} files (by decide +kernel)
    rfl
  have hrefused : (Program.run arguments { maxLineLength := some "wide" } files).toOption.map
      Effect.exitCode = some 1 := by
    decide +kernel
  have hreturned : (Program.run arguments {} files).toOption.map Effect.exitCode = some 0 := by
    decide +kernel
  rw [hsame] at hrefused
  exact absurd (hrefused.symm.trans hreturned) (by decide)

end OnePass.Proofs
