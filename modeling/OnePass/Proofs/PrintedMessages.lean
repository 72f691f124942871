import OnePass.Proofs.FailureOutput
import OnePass.Proofs.ListingLines

/-!
# How a message is printed

What a message starts with is printed as it is, whatever follows, unless it holds a line break or an
escape character. As many lines are printed as the message has, and the report of a faulty line has
more than one: under the headline comes the line or a hint.
-/

namespace OnePass.Proofs

section Starts

lemma displayLines_start {p : Text} (hp : IsOneLine p) (hne : p ≠ []) (q : Text) :
    ∃ l more, Text.displayLines (p ++ q) = (p ++ l) :: more := by
  have hfirst : ∀ c lines, ∃ l more, putFirst c lines = (c :: l) :: more := by
    intro c lines
    cases lines with
    | nil => exact ⟨[], [], rfl⟩
    | cons l more => exact ⟨l, more, rfl⟩
  induction p with
  | nil => exact absurd rfl hne
  | cons c p ih =>
    obtain ⟨hc, hrest⟩ := List.forall_mem_cons.mp hp
    rw [List.cons_append, displayLines_plain hc.1]
    by_cases hnil : p = []
    · rw [hnil]
      exact hfirst c _
    · obtain ⟨l, more, hlines⟩ := ih hrest hnil
      rw [hlines]
      exact ⟨l, more, rfl⟩

theorem echo_starts {p : Text} (hp : IsOneLine p) (hne : p ≠ []) (q : Text) :
    lineStart ++ p <+: echo (p ++ q) := by
  obtain ⟨l, more, hlines⟩ := displayLines_start hp hne q
  have hescape : '\x1b' ∉ lineStart ++ p := by
    rw [List.mem_append, not_or]
    exact ⟨by decide, fun h => (hp _ h).2 rfl⟩
  unfold echo
  rw [hlines]
  dsimp only
  rw [List.flatMap_cons, ← List.append_assoc, stripSequences_append hescape, List.append_assoc,
    List.append_assoc]
  exact List.prefix_append _ _

end Starts

section Counting

lemma length_displayLines_cons (c : Char) (s : Text) :
    0 < (Text.displayLines (c :: s)).length ∧
      (Text.displayLines s).length ≤ (Text.displayLines (c :: s)).length := by
  by_cases hpair : c = '\r' ∧ s.head? = some '\n'
  · obtain ⟨rfl, hhead⟩ := hpair
    obtain ⟨t, rfl⟩ := List.head?_eq_some_iff.mp hhead
    have hfeed : Text.displayLines ('\n' :: t) = [] :: Text.displayLines t :=
      displayLines_append (List.forall_mem_nil _) t
    have hboth : Text.displayLines ('\r' :: '\n' :: t) = [] :: Text.displayLines t := rfl
    rw [hboth]
    exact ⟨Nat.succ_pos _, (congrArg List.length hfeed).le⟩
  · rw [displayLines_cons fun hc hhead => hpair ⟨hc, hhead⟩]
    split_ifs
    · exact ⟨Nat.succ_pos _, Nat.le_succ _⟩
    · cases Text.displayLines s with
      | nil => exact ⟨Nat.succ_pos _, Nat.zero_le _⟩
      | cons l more => exact ⟨Nat.succ_pos _, Nat.le_refl _⟩

lemma length_displayLines_append (s t : Text) :
    (Text.displayLines t).length ≤ (Text.displayLines (s ++ t)).length := by
  induction s with
  | nil => exact Nat.le_refl _
  | cons c s ih => exact ih.trans (length_displayLines_cons c (s ++ t)).2

lemma length_displayLines_le_count (m : Text) :
    (Text.displayLines m).length ≤ (echo m).count '\n' := by
  have hended : ∀ lines : List Text, lines.length ≤
      (lines.flatMap fun l => Text.stripSequences (lineStart ++ l) ++ "\n".toList).count '\n' := by
    intro lines
    induction lines with
    | nil => exact Nat.zero_le _
    | cons l lines ih =>
      have hend : ("\n".toList).count '\n' = 1 := by decide
      rw [List.flatMap_cons, List.length_cons, List.count_append, List.count_append, hend]
      omega
  unfold echo
  cases Text.displayLines m with
  | nil => exact Nat.zero_le _
  | cons l lines => exact hended (l :: lines)

lemma count_echo_of_isOneLine {l : Text} (h : IsOneLine l) : (echo l).count '\n' = 1 := by
  have hstart : lineStart.count '\n' = 0 := by decide
  have hline : l.count '\n' = 0 :=
    List.count_eq_zero.mpr fun hfeed => absurd (h _ hfeed).1 (by decide)
  rw [echo_of_isOneLine h, List.count_append, List.count_append, hstart, hline,
    List.count_singleton_self]

theorem echo_ne_of_break {l : Text} (h : IsOneLine l) (p : Text) {q : Text} (hq : q ≠ []) :
    echo (p ++ '\n' :: q) ≠ echo l := by
  intro he
  have hfeed : Text.displayLines ('\n' :: q) = [] :: Text.displayLines q :=
    displayLines_append (List.forall_mem_nil _) q
  have hlines := length_displayLines_append p ('\n' :: q)
  have hcount := length_displayLines_le_count (p ++ '\n' :: q)
  obtain ⟨c, q, rfl⟩ := List.exists_cons_of_ne_nil hq
  have hrest := (length_displayLines_cons c q).1
  rw [he, count_echo_of_isOneLine h] at hcount
  rw [hfeed, List.length_cons] at hlines
  omega

end Counting

section Reports

/-- A diagnostic that shows the line or gives a hint. -/
def ShowsMore (d : Diagnostic) : Prop :=
  d.sourceLine ≠ none ∨ ∃ c hint, d.cause.hint = some (c :: hint)

lemma report_of_showsMore {d : Diagnostic} (h : ShowsMore d) :
    ∃ q, q ≠ [] ∧ d.report = d.headline ++ '\n' :: q := by
  have hjoin : ∀ second rest, ∃ q, Text.join "\n" (d.headline :: second :: rest) =
      d.headline ++ '\n' :: (second ++ q) := by
    intro second rest
    obtain ⟨q, hq⟩ := join_cons "\n" second rest
    have hstep : Text.join "\n" (d.headline :: second :: rest) =
        d.headline ++ ['\n'] ++ Text.join "\n" (second :: rest) := rfl
    exact ⟨q, by rw [hstep, hq, List.append_assoc, List.singleton_append]⟩
  unfold Diagnostic.report
  cases hline : d.sourceLine with
  | some line =>
    obtain ⟨q, hq⟩ := hjoin ("    ".toList ++ line) _
    exact ⟨_, List.cons_ne_nil ' ' _, hq⟩
  | none =>
    obtain hshown | ⟨c, hint, hhint⟩ := h
    · exact absurd hline hshown
    · rw [hhint]
      obtain ⟨q, hq⟩ := hjoin ("hint: ".toList ++ c :: hint) []
      exact ⟨_, List.cons_ne_nil 'h' _, hq⟩

lemma showsMore_of_assembleLine {s : Session} {hints : MnemonicTable} {line : Int} {raw : Text}
    {d : Diagnostic} (h : (s.assembleLine hints line raw).failure = some d) : ShowsMore d := by
  have hcases := assembleLine_cases s hints line raw
  generalize s.assembleLine hints line raw = o at hcases h
  cases hcases with
  | tooLong _ =>
    obtain rfl := Option.some.inj h
    exact Or.inr ⟨_, _, rfl⟩
  | refused _ _ =>
    obtain rfl := Option.some.inj h
    exact Or.inl (Option.some_ne_none _)
  | resolved _ _ resolution =>
    cases resolution with
    | duplicate _ _ =>
      obtain rfl := Option.some.inj h
      exact Or.inr ⟨_, _, rfl⟩
    | stray _ _ _ _ =>
      obtain rfl := Option.some.inj h
      exact Or.inl (Option.some_ne_none _)
    | unknown _ _ _ _ =>
      obtain rfl := Option.some.inj h
      exact Or.inl (Option.some_ne_none _)
    | dispatched _ _ _ _ => cases h
    | silent _ _ _ _ => cases h

/-- The ways in which assembling a file fails. -/
inductive FileFailure : AssemblyError → Prop
  | unreadable (file reason : Text) :
      FileFailure (.diagnostic ⟨.unreadable file reason, none, none⟩)
  | line {d : Diagnostic} (shows : ShowsMore d) : FileFailure (.diagnostic d)
  | unmarked : FileFailure .noByteOrderMark
  | nullInEncoding : FileFailure (.unopened .nullInEncoding)
  | nullInPath : FileFailure (.unopened .nullInPath)
  | conversion (error : EncodingError) : FileFailure (.unopened (.encoding error))

theorem fileFailure_of_assembleFile {a : Assembler} {files : FileTree} {path : Text}
    {e : AssemblyError} (h : (a.assembleFile files path).failure = some e) : FileFailure e := by
  cases hread : files.readText (Path.ofText path).toText a.config.encoding with
  | error error =>
    rw [assembleFile_of_error hread] at h
    obtain rfl := Option.some.inj h
    cases error with
    | nullInEncoding => exact .nullInEncoding
    | nullInPath => exact .nullInPath
    | path error => exact .unreadable _ _
    | encoding error => exact .conversion error
  | ok source =>
    rw [(assembleFile_of_ok hread).1] at h
    cases hp : (passOver a (Path.ofText path).toText source.lines).failure with
    | some d =>
      rw [assembleSource_of_stopped source hp] at h
      obtain rfl := Option.some.inj h
      obtain ⟨s, line, raw, hline⟩ := exists_failing_line hp
      exact .line (showsMore_of_assembleLine hline)
    | none =>
      cases hf : source.fault with
      | none =>
        rw [assembleSource_of_completed source hp hf] at h
        cases h
      | some fault =>
        rw [assembleSource_of_broken source hp hf] at h
        obtain rfl := Option.some.inj h
        cases fault with
        | undecodable fault => exact .unreadable _ _
        | noByteOrderMark => exact .unmarked

end Reports

end OnePass.Proofs
