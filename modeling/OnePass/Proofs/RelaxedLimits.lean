import OnePass.Proofs.Concatenation
import OnePass.Proofs.GivenMnemonics
import OnePass.Proofs.StaleResults

/-!
# Runs under relaxed limits

A greater limit on the length of a line and further mnemonics never take back what a run has
accepted: the fields of a line do not depend on the limit, and a mnemonic that is found in a table
is found in every table with the same handlers and more. A run that completes therefore completes
with the same results, and one that stops at a line gets at least as far and leaves the same behind.
-/

namespace OnePass.Proofs

/-- An assembler allows at least what another does: it has the same marks, a limit that is no
smaller, and all handlers of the other, in any order and among any others. -/
structure Relaxes (a a' : Assembler) : Prop where
  config : ∃ limit, a.config.lineLimit ≤ limit ∧ a'.config = { a.config with lineLimit := limit }
  handlers : ∀ h ∈ a.mnemonics.handlers, h ∈ a'.mnemonics.handlers

/-- Two sessions with the same symbols and the same address. -/
structure SameLayout (s s' : Session) : Prop where
  symbols : s'.symbols = s.symbols
  address : s'.address = s.address

/-- A session that has gone on from another. -/
structure GoesOn (s s' : Session) : Prop where
  symbols : s.symbols.symbols <+: s'.symbols.symbols
  address : s.address ≤ s'.address

/-- A run over some lines gets at least as far as another one, which stops behind the first `k` of
them. -/
structure GetsAsFar (a a' : Assembler) (filename : Text) (lines : List Text) (k : Nat) : Prop where
  later : (a'.assembleLines lines filename).failure = none ∨
    ∃ d k', (a'.assembleLines lines filename).failure = some (.diagnostic d) ∧
      d.location = some ⟨filename, (k' : Nat) + 1⟩ ∧ k ≤ k'
  /-- What the runs leave, compared with what they leave of the first `k` lines alone. -/
  sessions : ∃ s s' u u',
    (a.assembleLines (lines.take k) filename).assembler.result = .ok s ∧
      (a'.assembleLines (lines.take k) filename).assembler.result = .ok s' ∧ SameLayout s s' ∧
      (a.assembleLines lines filename).assembler.session = some u ∧ SameLayout s u ∧
      (a'.assembleLines lines filename).assembler.session = some u' ∧ GoesOn s' u'

section Layout

variable {a a' : Assembler} {lines : List Text}

lemma code_lineLimit (c : Config) (limit : Int) (s : Scan) (raw : Text) :
    s.code { c with lineLimit := limit } raw = s.code c raw := by
  induction raw generalizing s with
  | nil => rfl
  | cons ch raw ih =>
    have hnext : s.next { c with lineLimit := limit } ch = s.next c ch := by cases s <;> rfl
    rw [Scan.code, Scan.code, hnext]
    cases s.next c ch with
    | none => rfl
    | some s' => exact congrArg (ch :: ·) (ih s')

lemma lineFields_relaxed (h : Relaxes a a') (raw : Text) :
    lineFields a'.config raw = lineFields a.config raw := by
  obtain ⟨limit, -, hconfig⟩ := h.config
  rw [lineFields, Line.strip, hconfig, code_lineLimit]
  rfl

lemma labelMark_relaxed (h : Relaxes a a') : a'.config.labelMark = a.config.labelMark := by
  obtain ⟨limit, -, hconfig⟩ := h.config
  rw [hconfig]

lemma labelOf_relaxed (h : Relaxes a a') : labelOf a'.config = labelOf a.config := by
  funext raw
  rw [labelOf, labelMark_relaxed h, lineFields_relaxed h, labelOf]

lemma mnemonicOf_relaxed (h : Relaxes a a') : mnemonicOf a'.config = mnemonicOf a.config := by
  funext raw
  rw [mnemonicOf, labelMark_relaxed h, lineFields_relaxed h, mnemonicOf]

lemma lineSize_relaxed (h : Relaxes a a') {raw : Text}
    (known : ∀ m, mnemonicOf a.config raw = some m →
      ∃ handler ∈ a.mnemonics.handlers, Text.foldCase handler.keyword = Text.foldCase m) :
    lineSize a'.config a'.mnemonics raw = lineSize a.config a.mnemonics raw := by
  rw [lineSize, mnemonicOf_relaxed h, lineSize]
  cases hm : mnemonicOf a.config raw with
  | none => rfl
  | some m =>
    obtain ⟨handler, hmem, hkey⟩ := known m hm
    have hfind := (mnemonic_find?_eq_some_iff a.mnemonics m handler).mpr ⟨hmem, hkey⟩
    have hfind' :=
      (mnemonic_find?_eq_some_iff a'.mnemonics m handler).mpr ⟨h.handlers handler hmem, hkey⟩
    rw [Option.bind_some, Option.bind_some, hfind, hfind']

lemma totalSize_relaxed (h : Relaxes a a') (known : KnowsAll a.config a.mnemonics lines) :
    totalSize a'.config a'.mnemonics lines = totalSize a.config a.mnemonics lines := by
  induction lines with
  | nil => rfl
  | cons raw lines ih =>
    obtain ⟨hraw, hlines⟩ := List.forall_mem_cons.mp known
    rw [totalSize, totalSize, lineSize_relaxed h hraw, ih hlines]

lemma declarations_relaxed (h : Relaxes a a') (filename : Text)
    (known : KnowsAll a.config a.mnemonics lines) :
    declarations a'.config a'.mnemonics filename lines =
      declarations a.config a.mnemonics filename lines := by
  induction lines using List.reverseRecOn with
  | nil => rfl
  | append_singleton lines raw ih =>
    have hlines : KnowsAll a.config a.mnemonics lines :=
      fun raw' hraw => known raw' (List.mem_append_left _ hraw)
    rw [declarations_snoc, declarations_snoc, ih hlines, labelOf_relaxed h,
      totalSize_relaxed h hlines]

theorem wellFormed_relaxed (h : Relaxes a a') (hw : WellFormed a.config a.mnemonics lines) :
    WellFormed a'.config a'.mnemonics lines := by
  refine ⟨fun raw hraw => ?_, fun raw hraw => ?_, ?_, fun raw hraw m hm => ?_⟩
  · obtain ⟨limit, hlimit, hconfig⟩ := h.config
    rw [hconfig]
    exact Int.lt_of_lt_of_le (hw.short raw hraw) hlimit
  · rw [lineFields_relaxed h, labelMark_relaxed h]
    exact hw.named raw hraw
  · rw [labelOf_relaxed h]
    exact hw.distinct
  · rw [mnemonicOf_relaxed h] at hm
    obtain ⟨handler, hmem, hkey⟩ := hw.known raw hraw m hm
    exact ⟨handler, h.handlers handler hmem, hkey⟩

end Layout

section Passes

/-- Lines that pass a run pass a relaxed one too and leave the same. -/
theorem passOver_relaxed {a a' : Assembler} (hm : a.config.labelMark ≠ []) (h : Relaxes a a')
    {filename : Text} {lines : List Text} (hp : (passOver a filename lines).failure = none) :
    (passOver a' filename lines).failure = none ∧
      SameLayout (passOver a filename lines).session (passOver a' filename lines).session := by
  have hreach := passOver_reaches a filename lines hm
  have hreach' := passOver_reaches a' filename lines (by rwa [labelMark_relaxed h])
  have hw := hreach.1.mp hp
  have hp' := hreach'.1.mpr (wellFormed_relaxed h hw)
  have hr := hreach.2 hp
  have hr' := hreach'.2 hp'
  refine ⟨hp', SymbolTable.ext ?_, ?_⟩
  · rw [hr'.symbols, hr.symbols, declarations_relaxed h filename hw.known]
  · rw [hr'.address, hr.address, totalSize_relaxed h hw.known]

lemma goesOn_refl (s : Session) : GoesOn s s := ⟨List.prefix_refl _, Nat.le_refl _⟩

lemma goesOn_declared {s s' : Session} {line : Int} {label : Option Text}
    (h : Declared s line label s') : GoesOn s s' := by
  refine ⟨?_, Nat.le_of_eq h.address.symm⟩
  rw [h.symbols]
  exact List.prefix_append _ _

lemma goesOn_assembleLine (s : Session) (hints : MnemonicTable) (line : Int) (raw : Text) :
    GoesOn s (s.assembleLine hints line raw).session := by
  have hcases := assembleLine_cases s hints line raw
  generalize s.assembleLine hints line raw = o at hcases
  cases hcases with
  | tooLong long => exact goesOn_refl s
  | refused short parsed => exact goesOn_refl s
  | resolved short parsed resolution =>
    cases resolution with
    | duplicate label taken => exact goesOn_refl s
    | stray new declared mnemonic operand => exact goesOn_declared declared
    | unknown new declared mnemonic missing => exact goesOn_declared declared
    | dispatched new declared mnemonic found =>
      have hlabel := goesOn_declared declared
      exact ⟨hlabel.symbols, Nat.le_trans hlabel.address (Nat.le_add_right _ _)⟩
    | silent new declared mnemonic operand => exact goesOn_declared declared

lemma goesOn_pass (s : Session) (hints : MnemonicTable) (n : Nat) (lines : List Text) :
    GoesOn s (s.pass hints n lines).session := by
  induction lines generalizing s n with
  | nil => exact goesOn_refl s
  | cons raw rest ih =>
    have hline := goesOn_assembleLine s hints (n + 1) raw
    rw [pass_cons]
    cases (s.assembleLine hints (n + 1) raw).failure with
    | some d => exact hline
    | none =>
      have hrest := ih (s.assembleLine hints (n + 1) raw).session (n + 1)
      exact ⟨hline.symbols.trans hrest.symbols, Nat.le_trans hline.address hrest.address⟩

lemma goesOn_passOver {a : Assembler} {filename : Text} {lines : List Text} {k : Nat}
    (hp : (passOver a filename (lines.take k)).failure = none) :
    GoesOn (passOver a filename (lines.take k)).session (passOver a filename lines).session := by
  have hsplit : passOver a filename (lines.take k ++ lines.drop k) = _ :=
    pass_append (lines.drop k) hp
  rw [List.take_append_drop] at hsplit
  rw [hsplit]
  exact goesOn_pass _ _ _ _

/-- A failing run stops at a line, and the run over the lines before it has not failed. -/
lemma exists_stop {a : Assembler} (hm : a.config.labelMark ≠ []) {filename : Text}
    {lines : List Text} {d : Diagnostic} (hf : (passOver a filename lines).failure = some d) :
    ∃ k raw, (passOver a filename (lines.take k)).failure = none ∧
      (passOver a filename (lines.take (k + 1))).failure ≠ none ∧
      d.location = some ⟨filename, (k : Nat) + 1⟩ ∧
      Stopped (passOver a filename (lines.take k)).session (k + 1 : Nat) raw d
        (passOver a filename lines).session := by
  obtain ⟨k, hk, -, htake, hbefore⟩ := pass_takes (a.newSession filename) a.mnemonics 0 lines
  have hall : passOver a filename (lines.take k) = passOver a filename lines := htake
  cases k with
  | zero =>
    rw [← hall] at hf
    cases hf
  | succ k =>
    have hb : (passOver a filename (lines.take k)).failure = none := hbefore k (Nat.lt_succ_self k)
    have hline : lines.take (k + 1) = lines.take k ++ [lines[k]] := by
      rw [List.take_add_one, List.getElem?_eq_getElem hk, Option.toList_some]
    have hlength : (lines.take k).length = k := by
      rw [List.length_take, Nat.min_eq_left (Nat.le_of_succ_le hk)]
    have hreach := passOver_reaches a filename (lines.take k) hm
    have hr := hreach.2 hb
    have hsnoc := passOver_snoc hm hb (hreach.1.mp hb) hr lines[k]
    rw [← hline, hall, hlength] at hsnoc
    dsimp only at hsnoc
    rw [hf] at hsnoc
    obtain ⟨hok, -, -⟩ | ⟨d', hd', -, hstop⟩ := hsnoc
    · cases hok
    · obtain rfl := Option.some.inj hd'
      refine ⟨k, lines[k], hb, ?_, ?_, hstop⟩
      · rw [hall, hf]
        exact Option.some_ne_none d
      · rw [hstop.location, Session.locate, hr.filename_eq]
        push_cast
        rfl

lemma take_passes {a : Assembler} {filename : Text} {lines : List Text} {k k' : Nat} (hle : k' ≤ k)
    (hp : (passOver a filename (lines.take k)).failure = none) :
    (passOver a filename (lines.take k')).failure = none := by
  rw [← List.take_append_drop k' (lines.take k), List.take_take, Nat.min_eq_left hle] at hp
  exact pass_of_append hp

end Passes

section Runs

variable {a : Assembler} {filename : Text} {lines : List Text}

lemma session_assembleLines (a : Assembler) (lines : List Text) (filename : Text) :
    (a.assembleLines lines filename).assembler.session =
      some (passOver a filename lines).session := by
  obtain ⟨-, -, hsession, -⟩ := assembleSource_leaves a ⟨lines, none⟩ filename
  exact hsession

lemma assembleLines_failure_eq_some_iff {d : Diagnostic} :
    (a.assembleLines lines filename).failure = some (.diagnostic d) ↔
      (passOver a filename lines).failure = some d := by
  cases hp : (passOver a filename lines).failure with
  | none =>
    have h := (assembleLines_failure_eq_none_iff a lines filename).mpr hp
    rw [h]
    exact iff_of_false (by simp) (by simp)
  | some d' =>
    have h := assembleSource_of_stopped ⟨lines, none⟩ hp
    rw [Assembler.assembleLines, h]
    simp

end Runs

theorem getsAsFar_of_stop {a a' : Assembler} (hm : a.config.labelMark ≠ []) (h : Relaxes a a')
    {filename : Text} {lines : List Text} {k : Nat}
    (hp : (passOver a filename (lines.take k)).failure = none)
    (hsame : SameLayout (passOver a filename (lines.take k)).session
      (passOver a filename lines).session) : GetsAsFar a a' filename lines k := by
  obtain ⟨hp', hlayout⟩ := passOver_relaxed hm h hp
  constructor
  · cases hf : (passOver a' filename lines).failure with
    | none => exact Or.inl ((assembleLines_failure_eq_none_iff a' lines filename).mpr hf)
    | some d =>
      have hm' : a'.config.labelMark ≠ [] := by rwa [labelMark_relaxed h]
      obtain ⟨k', raw, -, hfails, hlocation, -⟩ := exists_stop hm' hf
      refine Or.inr ⟨d, k', assembleLines_failure_eq_some_iff.mpr hf, hlocation, ?_⟩
      by_contra hlt
      exact hfails (take_passes (Nat.lt_of_not_le hlt) hp')
  · exact ⟨_, _, _, _, result_of_completed hp, result_of_completed hp', hlayout,
      session_assembleLines a lines filename, hsame, session_assembleLines a' lines filename,
      goesOn_passOver hp'⟩

/-- Relaxing limits is safe. What an assembler accepts, one with a greater limit and more handlers
accepts with the same symbols and address. Where a line is too long for the first, the second
completes or fails no earlier, and both leave the same of what stands before that line. -/
theorem relaxing_keeps_runs (a a' : Assembler) (valid : a.config.Valid) (relaxes : Relaxes a a')
    (filename : Text) (lines : List Text) :
    let run := a.assembleLines lines filename
    let run' := a'.assembleLines lines filename
    (run.failure = none → run'.failure = none ∧ ∃ s s', run.assembler.result = .ok s ∧
      run'.assembler.result = .ok s' ∧ SameLayout s s') ∧
    ∀ k d length limit, run.failure = some (.diagnostic d) → d.cause = .lineTooLong length limit →
      d.location = some ⟨filename, (k : Nat) + 1⟩ → GetsAsFar a a' filename lines k := by
  have hm := labelMark_ne_nil valid
  dsimp only
  constructor
  · intro hreturns
    have hp := (assembleLines_failure_eq_none_iff a lines filename).mp hreturns
    obtain ⟨hp', hlayout⟩ := passOver_relaxed hm relaxes hp
    exact ⟨(assembleLines_failure_eq_none_iff a' lines filename).mpr hp', _, _,
      result_of_completed hp, result_of_completed hp', hlayout⟩
  · intro k d length limit hfails hcause hlocation
    obtain ⟨k', raw, hp, -, hlocation', hstop⟩ :=
      exists_stop hm (assembleLines_failure_eq_some_iff.mp hfails)
    obtain rfl : k = k' := by
      rw [hlocation, Option.some.injEq, Location.mk.injEq] at hlocation'
      omega
    have hsymbols := hstop.symbols
    rw [hcause, residue, List.append_nil] at hsymbols
    · exact getsAsFar_of_stop hm relaxes hp ⟨SymbolTable.ext hsymbols, hstop.address⟩
    · simp

/-- A limit of nine characters and one handler, relaxed to twelve characters and three handlers with
the one in their midst. Of two sources the first completes in both cases. The second has a line too
long for the lower limit, behind which there is one too long for either. -/
theorem limit_of_nine_relaxed :
    let db : Handler := Mnemonic.db.handler
    let a : Assembler := { config := { lineLimit := 9 }, mnemonics := ⟨[db], by decide⟩ }
    let a' : Assembler :=
      { config := { lineLimit := 12 }
        mnemonics := ⟨[Mnemonic.mov.handler, db, Mnemonic.int.handler], by decide⟩ }
    let accepted := ["a: db 1\n".toList, "b:\n".toList]
    let stopped := ["a: db 1\n".toList, "b: db 100\n".toList, "c: db 100000\n".toList]
    a.config.Valid ∧ Relaxes a a' ∧ (a.assembleLines accepted "p.asm").failure = none ∧
      (a'.assembleLines accepted "p.asm").failure = none ∧
      GetsAsFar a a' "p.asm" stopped 1 := by
  intro db a a' accepted stopped
  have valid : a.config.Valid := by decide +kernel
  have relaxes : Relaxes a a' := by
    refine ⟨⟨12, by decide, rfl⟩, ?_⟩
    intro handler hmem
    obtain rfl := List.mem_singleton.mp hmem
    exact List.mem_cons_of_mem _ List.mem_cons_self
  have hreturns : (a.assembleLines accepted "p.asm").failure = none := by decide +kernel
  have hfails : (a.assembleLines stopped "p.asm").failure =
      some (.diagnostic ⟨.lineTooLong 10 9, some ⟨"p.asm".toList, 2⟩, none⟩) := by decide +kernel
  refine ⟨valid, relaxes, hreturns, ?_, ?_⟩
  · exact ((relaxing_keeps_runs a a' valid relaxes "p.asm" accepted).1 hreturns).1
  · exact (relaxing_keeps_runs a a' valid relaxes "p.asm" stopped).2 1 _ 10 9 hfails rfl rfl

end OnePass.Proofs
