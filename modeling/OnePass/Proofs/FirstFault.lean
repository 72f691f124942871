import Mathlib.Data.Set.Operations
import Mathlib.Order.Bounds.Defs
import OnePass.Proofs.SourceRun

/-!
# The first fault of a run

A run that fails does so at the last line of its shortest failing part. That line alone decides the
cause, against the symbols of the lines before it, and no line after it has any influence. The
session is left as the run over the lines before it leaves it, but for the residue of the faulty
line.
-/

namespace OnePass.Proofs

/-- A run over some lines fails at the line `raw`, before which there are `k` lines. -/
structure FailsAt (a : Assembler) (filename : Text) (lines : List Text) (k : Nat) (raw : Text)
    (d : Diagnostic) : Prop where
  least : IsLeast {m | (a.assembleLines (lines.take m) filename).failure ≠ none} (k + 1)
  line : lines[k]? = some raw
  failure : (a.assembleLines lines filename).failure = some (.diagnostic d)
  location : d.location = some ⟨filename, k + 1⟩
  fault : LineFault a.config a.mnemonics
    (declarations a.config a.mnemonics filename (lines.take k)) raw d.cause
  linesRead : (a.assembleLines lines filename).linesRead = k + 1
  /-- What follows the line is never looked at. -/
  later : ∀ more, a.assembleLines (lines.take (k + 1) ++ more) filename =
    a.assembleLines lines filename
  incomplete : (a.assembleLines lines filename).assembler.complete = false
  /-- The session left behind, compared with that of the successful run over the lines before. -/
  session : ∃ before after,
    (a.assembleLines (lines.take k) filename).assembler.result = .ok before ∧
      (a.assembleLines lines filename).assembler.session = some after ∧
      after.address = before.address ∧
      after.symbols.symbols = before.symbols.symbols ++
        residue a.config filename before.address (k + 1) raw d.cause

lemma assembleLines_append_of_failed {a : Assembler} {filename : Text} {lines : List Text}
    (h : (passOver a filename lines).failure ≠ none) (more : List Text) :
    a.assembleLines (lines ++ more) filename = a.assembleLines lines filename := by
  have he : passOver a filename (lines ++ more) = passOver a filename lines :=
    pass_append_of_failed more h
  obtain ⟨d, hd⟩ := Option.ne_none_iff_exists'.mp h
  have hlong := assembleSource_of_stopped ⟨lines ++ more, none⟩ (he ▸ hd)
  have hshort := assembleSource_of_stopped ⟨lines, none⟩ hd
  rw [Assembler.assembleLines, Assembler.assembleLines, hlong, hshort]
  simp only [he]

/-- The shortest failing part of some lines ends with the line that fails. -/
lemma isLeast_failing {a : Assembler} {filename : Text} {before after : List Text} {raw : Text}
    (hb : (passOver a filename before).failure = none)
    (hs : (passOver a filename (before ++ [raw])).failure ≠ none) :
    IsLeast {m | (a.assembleLines ((before ++ raw :: after).take m) filename).failure ≠ none}
      (before.length + 1) := by
  constructor
  · have ht : (before ++ raw :: after).take (before.length + 1) = before ++ [raw] := by
      rw [List.take_append, List.take_of_length_le (Nat.le_succ _)]
      simp
    rw [Set.mem_ofPred_eq, ht, ne_eq, assembleLines_failure_eq_none_iff]
    exact hs
  · intro m hm
    rw [Set.mem_ofPred_eq, ne_eq, assembleLines_failure_eq_none_iff] at hm
    by_contra hlt
    have ht : (before ++ raw :: after).take m = before.take m := by
      rw [List.take_append_of_le_length (by omega)]
    rw [ht] at hm
    rw [← List.take_append_drop m before] at hb
    exact hm (pass_of_append hb)

/-- First-error law. A failing run fails at the last line of its shortest failing part, for a cause
that this line decides. -/
theorem run_fails_at_first_fault (a : Assembler) (valid : a.config.Valid) (filename : Text)
    (lines : List Text) (failed : (a.assembleLines lines filename).failure ≠ none) :
    ∃ k raw d, FailsAt a filename lines k raw d := by
  have hm := labelMark_ne_nil valid
  rw [ne_eq, assembleLines_failure_eq_none_iff] at failed
  obtain ⟨before, raw, after, rfl, hb, hs⟩ := pass_stops failed
  have hreach := passOver_reaches a filename before hm
  have hw := hreach.1.mp hb
  have hr := hreach.2 hb
  rcases passOver_snoc hm hb hw hr raw with ⟨hf, -, -⟩ | ⟨d, hf, -, hstop⟩
  · exact absurd hf hs
  have hsplit : before ++ raw :: after = (before ++ [raw]) ++ after := by simp
  have htake : (before ++ raw :: after).take before.length = before := by simp
  have htake' : (before ++ raw :: after).take (before.length + 1) = before ++ [raw] := by
    have hlen : (before ++ [raw]).length = before.length + 1 := by simp
    rw [hsplit, ← hlen, List.take_left]
  have hall : a.assembleLines (before ++ raw :: after) filename =
      a.assembleLines (before ++ [raw]) filename := by
    rw [hsplit, assembleLines_append_of_failed hs]
  have hrun : a.assembleLines (before ++ [raw]) filename = _ :=
    assembleSource_of_stopped ⟨before ++ [raw], none⟩ hf
  have hread : (passOver a filename (before ++ [raw])).linesRead = before.length + 1 := by
    have hsnoc : passOver a filename (before ++ [raw]) = _ := pass_snoc raw hb
    simp only [hsnoc, Nat.zero_add]
  refine ⟨before.length, raw, d, ?_⟩
  refine ⟨isLeast_failing hb hs, by simp, ?_, ?_, ?_, ?_, ?_, ?_, ?_⟩
  · rw [hall, hrun]
  · rw [hstop.location, Session.locate, hr.filename_eq]
    push_cast
    rfl
  · have hfault := hstop.fault
    rwa [hr.config, hr.mnemonics, hr.symbols, ← htake] at hfault
  · rw [hall, hrun]
    exact hread
  · intro more
    rw [htake', hall, assembleLines_append_of_failed hs]
  · rw [hall, hrun]
  · refine ⟨_, _, ?_, ?_, hstop.address, ?_⟩
    · rw [htake, Assembler.assembleLines, assembleSource_of_completed ⟨before, none⟩ hb rfl]
      rfl
    · rw [hall, hrun]
    · have hsymbols := hstop.symbols
      rw [hr.config, hr.filename_eq] at hsymbols
      exact_mod_cast hsymbols

/-- The fault is in the mnemonic of the second of three lines, whose label stays behind. -/
theorem run_fails_at_unknown_mnemonic :
    let lines : List Text := ["a: db 1\n".toList, "b: jmp a\n".toList, ":\n".toList]
    ({} : Config).Valid ∧ (({} : Assembler).assembleLines lines "p.asm").failure ≠ none ∧
      ∃ k raw d, FailsAt {} "p.asm" lines k raw d := by
  have valid : ({} : Config).Valid := by decide +kernel
  have failed : (({} : Assembler).assembleLines
      ["a: db 1\n".toList, "b: jmp a\n".toList, ":\n".toList] "p.asm").failure ≠ none := by
    decide +kernel
  exact ⟨valid, failed, run_fails_at_first_fault {} valid "p.asm" _ failed⟩

end OnePass.Proofs
