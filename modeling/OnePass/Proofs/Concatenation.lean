import OnePass.Proofs.LineCutting
import OnePass.Proofs.Renumbering
import OnePass.Proofs.SourceRun

/-!
# One source behind another

Where no line goes on from one source into the next, the two can be assembled as one: they are well
formed together if each is so alone and they have no label in common. The second source is then
moved as a whole, its offsets by the address that the first reaches and its line numbers by the
number of lines there.
-/

namespace OnePass

/-- A symbol moved behind a source of so many lines that ends at an address. -/
def Symbol.relocate (address lines : Nat) (s : Symbol) : Symbol :=
  { s.renumber (· + lines) with offset := s.offset + address }

namespace Proofs

/-- No label on some lines is also one on others. -/
def NoCommonLabel (c : Config) (lines lines' : List Text) : Prop :=
  ∀ raw ∈ lines, ∀ raw' ∈ lines', ∀ name name', labelOf c raw = some name →
    labelOf c raw' = some name' → Text.foldCase name ≠ Text.foldCase name'

/-- What a run over two sources leaves, by what the runs over each of them leave. -/
structure Joins (lines : Nat) (first second both : Session) : Prop where
  symbols : both.symbols.symbols = first.symbols.symbols ++
    second.symbols.symbols.map (Symbol.relocate first.address lines)
  address : both.address = first.address + second.address

section Layout

variable (c : Config) (t : MnemonicTable) (filename : Text) (before after : List Text)

lemma totalSize_append :
    totalSize c t (before ++ after) = totalSize c t before + totalSize c t after := by
  induction before with
  | nil => exact (Nat.zero_add _).symm
  | cons raw before ih => rw [List.cons_append, totalSize, totalSize, ih, Nat.add_assoc]

theorem declarations_append :
    declarations c t filename (before ++ after) = declarations c t filename before ++
      (declarations c t filename after).map
        (Symbol.relocate (totalSize c t before) before.length) := by
  induction after using List.reverseRecOn with
  | nil => simp [declarations]
  | append_singleton after raw ih =>
    rw [← List.append_assoc, declarations_snoc, ih, declarations_snoc, List.map_append,
      List.append_assoc, List.length_append, totalSize_append]
    congr 2
    cases labelOf c raw with
    | none => rfl
    | some name =>
      have hline : ((before.length + after.length : Nat) : Int) + 1 =
          (after.length : Int) + 1 + before.length := by
        push_cast
        omega
      have hoffset : ((totalSize c t before + totalSize c t after : Nat) : Int) =
          totalSize c t after + totalSize c t before := by
        push_cast
        omega
      simp only [Option.toList_some, List.map_cons, List.map_nil, hline, hoffset]
      rfl

lemma labels_disjoint_iff :
    (∀ a ∈ (before.filterMap (labelOf c)).map Text.foldCase,
      ∀ b ∈ (after.filterMap (labelOf c)).map Text.foldCase, a ≠ b) ↔
        NoCommonLabel c before after := by
  simp only [NoCommonLabel, List.forall_mem_map, List.mem_filterMap]
  constructor
  · intro h raw hraw raw' hraw' name name' hname hname'
    exact h name ⟨raw, hraw, hname⟩ name' ⟨raw', hraw', hname'⟩
  · rintro h name ⟨raw, hraw, hname⟩ name' ⟨raw', hraw', hname'⟩
    exact h raw hraw raw' hraw' name name' hname hname'

theorem wellFormed_append_iff :
    WellFormed c t (before ++ after) ↔
      WellFormed c t before ∧ WellFormed c t after ∧ NoCommonLabel c before after := by
  have hlabels : ((before ++ after).filterMap (labelOf c)).map Text.foldCase =
      (before.filterMap (labelOf c)).map Text.foldCase ++
        (after.filterMap (labelOf c)).map Text.foldCase := by
    rw [List.filterMap_append, List.map_append]
  constructor
  · rintro ⟨short, named, distinct, known⟩
    rw [hlabels, List.nodup_append, labels_disjoint_iff] at distinct
    obtain ⟨short, short'⟩ := List.forall_mem_append.mp short
    obtain ⟨named, named'⟩ := List.forall_mem_append.mp named
    obtain ⟨known, known'⟩ := List.forall_mem_append.mp known
    exact ⟨⟨short, named, distinct.1, known⟩, ⟨short', named', distinct.2.1, known'⟩, distinct.2.2⟩
  · rintro ⟨⟨short, named, distinct, known⟩, ⟨short', named', distinct', known'⟩, hnone⟩
    refine ⟨List.forall_mem_append.mpr ⟨short, short'⟩, List.forall_mem_append.mpr ⟨named, named'⟩,
      ?_, List.forall_mem_append.mpr ⟨known, known'⟩⟩
    rw [hlabels, List.nodup_append, labels_disjoint_iff]
    exact ⟨distinct, distinct', hnone⟩

end Layout

lemma result_of_completed {a : Assembler} {filename : Text} {lines : List Text}
    (h : (passOver a filename lines).failure = none) :
    (a.assembleLines lines filename).assembler.result =
      .ok (passOver a filename lines).session := by
  rw [Assembler.assembleLines, assembleSource_of_completed ⟨lines, none⟩ h rfl]
  rfl

/-- Concatenation law. Two sources that no line spans are assembled as one just when each of them is
assembled alone and they have no label in common, and the results are then joined. -/
theorem concatenation_assembles_iff (a : Assembler) (valid : a.config.Valid) (filename : Text)
    {s s' : Text} (boundary : IsLineBoundary s s') :
    let both := a.assembleText (s ++ s') filename
    let first := a.assembleText s filename
    let second := a.assembleText s' filename
    (both.failure = none ↔ first.failure = none ∧ second.failure = none ∧
      NoCommonLabel a.config (Text.sourceLines s) (Text.sourceLines s')) ∧
    (both.failure = none → ∃ u u₁ u₂, both.assembler.result = .ok u ∧
      first.assembler.result = .ok u₁ ∧ second.assembler.result = .ok u₂ ∧
      Joins (Text.sourceLines s).length u₁ u₂ u) := by
  have hreach := fun lines => passOver_reaches a filename lines (labelMark_ne_nil valid)
  have hreturns : ∀ lines, (a.assembleLines lines filename).failure = none ↔
      WellFormed a.config a.mnemonics lines :=
    fun lines => (assembleLines_failure_eq_none_iff a lines filename).trans (hreach lines).1
  have htext : ∀ text, a.assembleText text filename =
      a.assembleLines (Text.sourceLines text) filename := fun _ => rfl
  dsimp only
  rw [htext, htext, htext, sourceLines_append_of_boundary boundary, hreturns, hreturns, hreturns]
  refine ⟨wellFormed_append_iff _ _ _ _, fun hboth => ?_⟩
  obtain ⟨hfirst, hsecond, -⟩ := (wellFormed_append_iff _ _ _ _).mp hboth
  have hpass := (hreach _).1.mpr hboth
  have hpass₁ := (hreach _).1.mpr hfirst
  have hpass₂ := (hreach _).1.mpr hsecond
  have hr := (hreach _).2 hpass
  have hr₁ := (hreach _).2 hpass₁
  have hr₂ := (hreach _).2 hpass₂
  refine ⟨_, _, _, result_of_completed hpass, result_of_completed hpass₁,
    result_of_completed hpass₂, ?_, ?_⟩
  · rw [hr.symbols, hr₁.symbols, hr₂.symbols, hr₁.address, declarations_append]
  · rw [hr.address, hr₁.address, hr₂.address, totalSize_append]

/-- A source that ends in a carriage return, and one whose first line is blank. -/
theorem two_sources_joined :
    let a : Assembler := {}
    let s : Text := "a: mov x\r".toList
    let s' : Text := " \nB:\n int 1".toList
    a.config.Valid ∧ IsLineBoundary s s' ∧ (a.assembleText (s ++ s') "p.asm").failure = none ∧
      ∃ u u₁ u₂, (a.assembleText (s ++ s') "p.asm").assembler.result = .ok u ∧
        (a.assembleText s "p.asm").assembler.result = .ok u₁ ∧
        (a.assembleText s' "p.asm").assembler.result = .ok u₂ ∧
        Joins (Text.sourceLines s).length u₁ u₂ u := by
  intro a s s'
  have valid : a.config.Valid := by decide +kernel
  have boundary : IsLineBoundary s s' := by
    unfold IsLineBoundary
    decide
  have hboth : (a.assembleText (s ++ s') "p.asm").failure = none := by decide +kernel
  exact ⟨valid, boundary, hboth,
    (concatenation_assembles_iff a valid "p.asm" boundary).2 hboth⟩

end Proofs

end OnePass
