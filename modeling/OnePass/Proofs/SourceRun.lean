import OnePass.Proofs.RunLayout
import OnePass.Proofs.ValidConfig

/-!
# Runs over sources

A run over a source ends in one of three ways: at a faulty line, at a fault met in reading after
the last line delivered, or at the end of the source. Only the last gives results, and a run over
raw lines gives them just when the lines are well formed.
-/

namespace OnePass.Proofs

variable {a : Assembler} (source : Source) {filename : Text}

lemma assembleSource_of_stopped {d : Diagnostic}
    (h : (passOver a filename source.lines).failure = some d) :
    a.assembleSource source filename =
      { assembler :=
          { a with session := some (passOver a filename source.lines).session, complete := false }
        events := (passOver a filename source.lines).events
        linesRead := (passOver a filename source.lines).linesRead
        failure := some (.diagnostic d) } := by
  unfold Assembler.assembleSource
  simp only [h]

lemma assembleSource_of_broken {fault : ReadFault}
    (h : (passOver a filename source.lines).failure = none) (hf : source.fault = some fault) :
    a.assembleSource source filename =
      { assembler :=
          { a with session := some (passOver a filename source.lines).session, complete := false }
        events := (passOver a filename source.lines).events
        linesRead := (passOver a filename source.lines).linesRead
        failure := some (Assembler.readFailure filename fault) } := by
  unfold Assembler.assembleSource
  simp only [h, hf]

lemma assembleSource_of_completed (h : (passOver a filename source.lines).failure = none)
    (hf : source.fault = none) :
    a.assembleSource source filename =
      { assembler :=
          { a with session := some (passOver a filename source.lines).session, complete := true }
        events := (passOver a filename source.lines).events ++
          [.completed filename (passOver a filename source.lines).linesRead
            (passOver a filename source.lines).session.symbols.size
            (passOver a filename source.lines).session.address]
        linesRead := (passOver a filename source.lines).linesRead
        failure := none } := by
  unfold Assembler.assembleSource
  simp only [h, hf]

/-- A run returns just when it has passed every line and the source is read to its end. -/
lemma assembleSource_returns_iff (a : Assembler) (source : Source) (filename : Text) :
    (a.assembleSource source filename).failure = none ↔
      (passOver a filename source.lines).failure = none ∧ source.fault = none := by
  cases hp : (passOver a filename source.lines).failure with
  | some d => simp [assembleSource_of_stopped source hp]
  | none =>
    cases hf : source.fault with
    | some fault => simp [assembleSource_of_broken source hp hf]
    | none => simp [assembleSource_of_completed source hp hf]

lemma assembleLines_failure_eq_none_iff (a : Assembler) (lines : List Text) (filename : Text) :
    (a.assembleLines lines filename).failure = none ↔
      (passOver a filename lines).failure = none :=
  (assembleSource_returns_iff a ⟨lines, none⟩ filename).trans (and_iff_left rfl)

/-- Whole-run specification. A run over raw lines returns just when the lines are well formed, and
its results are then the layout of the lines. -/
theorem run_returns_iff_wellFormed (a : Assembler) (valid : a.config.Valid) (lines : List Text)
    (filename : Text) :
    let r := a.assembleLines lines filename
    (r.failure = none ↔ WellFormed a.config a.mnemonics lines) ∧
      (r.failure = none →
        r.assembler.symbols.map SymbolTable.symbols =
            .ok (declarations a.config a.mnemonics filename lines) ∧
          r.assembler.address = .ok (totalSize a.config a.mnemonics lines) ∧
          r.assembler.complete = true) := by
  have hreach := passOver_reaches a filename lines (labelMark_ne_nil valid)
  dsimp only
  rw [assembleLines_failure_eq_none_iff]
  refine ⟨hreach.1, fun h => ?_⟩
  have hr := hreach.2 h
  unfold Assembler.assembleLines
  rw [assembleSource_of_completed ⟨lines, none⟩ h rfl]
  refine ⟨?_, ?_, rfl⟩
  · exact congrArg Except.ok hr.symbols
  · exact congrArg Except.ok hr.address

/-- A label beside a mnemonic, a comment, a label on a line of its own, and a mnemonic of size zero
under it. -/
theorem run_of_four_lines_returns :
    ({} : Config).Valid ∧
      let lines : List Text := ["a: DB 1\n".toList, "; b:\n".toList, "B:\n".toList,
        "section x".toList]
      let r := ({} : Assembler).assembleLines lines "p.asm"
      WellFormed {} MnemonicTable.standard lines ∧
        r.assembler.symbols.map SymbolTable.symbols =
          .ok [⟨['a'], 0, 1, ⟨"p.asm".toList, 1⟩⟩, ⟨['B'], 1, 3, ⟨"p.asm".toList, 3⟩⟩] ∧
        r.assembler.address = .ok 1 := by
  have valid : ({} : Config).Valid := by decide +kernel
  have h := run_returns_iff_wellFormed {} valid
    ["a: DB 1\n".toList, "; b:\n".toList, "B:\n".toList, "section x".toList] "p.asm"
  have hr : (({} : Assembler).assembleLines
      ["a: DB 1\n".toList, "; b:\n".toList, "B:\n".toList, "section x".toList]
      "p.asm").failure = none := by decide +kernel
  refine ⟨valid, h.1.mp hr, (h.2 hr).1.trans ?_, (h.2 hr).2.1.trans ?_⟩
  · exact congrArg Except.ok (by decide +kernel)
  · exact congrArg Except.ok (by decide +kernel)

end OnePass.Proofs
