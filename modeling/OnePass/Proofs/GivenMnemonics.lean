import OnePass.Proofs.SourceRun

/-!
# The mnemonics an assembler is given

A run honours a table of mnemonics when it completes just for lines whose mnemonics are all in the
table, each of which advances the address by the size it has there. An assembler honours the table
in its possession, which is the one it was given unless that is empty: then it is the standard one.
-/

namespace OnePass.Proofs

/-- The mnemonics on some lines are keywords of a table, up to case. -/
def KnowsAll (c : Config) (t : MnemonicTable) (lines : List Text) : Prop :=
  ∀ raw ∈ lines, ∀ m, mnemonicOf c raw = some m →
    ∃ h ∈ t.handlers, Text.foldCase h.keyword = Text.foldCase m

/-- What makes a run over some lines complete, whatever their mnemonics. -/
structure WellLabelled (c : Config) (lines : List Text) : Prop where
  short : ∀ raw ∈ lines, raw.length < c.lineLimit
  named : ∀ raw ∈ lines, (lineFields c raw).head? ≠ some c.labelMark
  distinct : ((lines.filterMap (labelOf c)).map Text.foldCase).Nodup

/-- The address that a run over some lines has reached after the first `k` of them. -/
def addressAfter (a : Assembler) (filename : Text) (lines : List Text) (k : Nat) : Nat :=
  (passOver a filename (lines.take k)).session.address

/-- A run over a source goes by a table of mnemonics. -/
structure Honours (a : Assembler) (t : MnemonicTable) (source : Source) (filename : Text) :
    Prop where
  completes : (a.assembleSource source filename).failure = none ↔
    KnowsAll a.config t source.lines
  advances : (a.assembleSource source filename).failure = none →
    ∀ k raw m, source.lines[k]? = some raw → mnemonicOf a.config raw = some m →
      ∃ h ∈ t.handlers, Text.foldCase h.keyword = Text.foldCase m ∧
        addressAfter a filename source.lines (k + 1) =
          addressAfter a filename source.lines k + h.size
  stays : (a.assembleSource source filename).failure = none →
    ∀ k raw, source.lines[k]? = some raw → mnemonicOf a.config raw = none →
      addressAfter a filename source.lines (k + 1) = addressAfter a filename source.lines k
  total : (a.assembleSource source filename).failure = none →
    (a.assembleSource source filename).assembler.address =
      .ok (addressAfter a filename source.lines source.lines.length)

lemma wellFormed_iff (c : Config) (t : MnemonicTable) (lines : List Text) :
    WellFormed c t lines ↔ WellLabelled c lines ∧ KnowsAll c t lines :=
  ⟨fun h => ⟨⟨h.short, h.named, h.distinct⟩, h.known⟩,
    fun h => ⟨h.1.short, h.1.named, h.1.distinct, h.2⟩⟩

lemma addressAfter_succ {a : Assembler} (hm : a.config.labelMark ≠ []) {filename : Text}
    {lines : List Text} (hp : (passOver a filename lines).failure = none) {k : Nat} {raw : Text}
    (hk : lines[k]? = some raw) :
    addressAfter a filename lines (k + 1) =
      addressAfter a filename lines k + lineSize a.config a.mnemonics raw := by
  have hreached : ∀ n, addressAfter a filename lines n =
      totalSize a.config a.mnemonics (lines.take n) := by
    intro n
    have hsplit := hp
    rw [← List.take_append_drop n lines] at hsplit
    exact ((passOver_reaches a filename (lines.take n) hm).2 (pass_of_append hsplit)).address
  rw [hreached, hreached, List.take_add_one, hk, Option.toList_some, totalSize_snoc]

theorem honours_mnemonics (a : Assembler) (valid : a.config.Valid) {source : Source}
    (filename : Text) (hf : source.fault = none) (hl : WellLabelled a.config source.lines) :
    Honours a a.mnemonics source filename := by
  have hm := labelMark_ne_nil valid
  have hpass := (assembleSource_returns_iff a source filename).trans (and_iff_left hf)
  have hknown : (passOver a filename source.lines).failure = none ↔
      KnowsAll a.config a.mnemonics source.lines := by
    rw [(passOver_reaches a filename source.lines hm).1, wellFormed_iff, and_iff_right hl]
  constructor
  · exact hpass.trans hknown
  · intro h k raw m hk hmn
    have hp := hpass.mp h
    obtain ⟨handler, hmem, hkey⟩ := hknown.mp hp raw (List.mem_of_getElem? hk) m hmn
    refine ⟨handler, hmem, hkey, ?_⟩
    have hfind := (mnemonic_find?_eq_some_iff a.mnemonics m handler).mpr ⟨hmem, hkey⟩
    rw [addressAfter_succ hm hp hk, lineSize, hmn, Option.bind_some, hfind]
  · intro h k raw hk hmn
    rw [addressAfter_succ hm (hpass.mp h) hk, lineSize, hmn, Option.bind_none, Nat.add_zero]
  · intro h
    rw [assembleSource_of_completed source (hpass.mp h) hf, addressAfter, List.take_length]
    rfl

/-- The empty table is honoured just where it makes no difference: it knows all mnemonics only if
there are none. -/
lemma honours_empty_iff {a : Assembler} {s t : MnemonicTable} {source : Source} {filename : Text}
    (ht : t.handlers = []) (hs : Honours a s source filename) :
    Honours a t source filename ↔ (∀ raw ∈ source.lines, mnemonicOf a.config raw = none) ∨
      ¬KnowsAll a.config s source.lines := by
  have hempty : KnowsAll a.config t source.lines ↔
      ∀ raw ∈ source.lines, mnemonicOf a.config raw = none := by
    simp [KnowsAll, ht, Option.eq_none_iff_forall_ne_some]
  constructor
  · intro h
    by_cases hall : KnowsAll a.config s source.lines
    · exact Or.inl (hempty.mp (h.completes.mp (hs.completes.mpr hall)))
    · exact Or.inr hall
  · rintro (hnone | hunknown)
    · have hall : KnowsAll a.config s source.lines := by
        intro raw hraw m hm
        rw [hnone raw hraw] at hm
        cases hm
      refine ⟨iff_of_true (hs.completes.mpr hall) (hempty.mpr hnone), ?_, hs.stays, hs.total⟩
      intro _ k raw m hk hm
      rw [hnone raw (List.mem_of_getElem? hk)] at hm
      cases hm
    · have hfails : (a.assembleSource source filename).failure ≠ none :=
        fun h => hunknown (hs.completes.mp h)
      refine ⟨iff_of_false hfails fun h => hunknown ?_, fun h => absurd h hfails, hs.stays, hs.total⟩
      intro raw hraw m hm
      rw [hempty.mp h raw hraw] at hm
      cases hm

/-- An assembler that is given a table of mnemonics honours it on a source just when the table is
not empty, or the source has no mnemonic, or it has one that is not even a standard one. -/
theorem honours_given_iff (config : Option Config) (t : MnemonicTable) (source : Source)
    (filename : Text) (valid : (Assembler.make config (some t)).config.Valid)
    (hf : source.fault = none)
    (hl : WellLabelled (Assembler.make config (some t)).config source.lines) :
    let a := Assembler.make config (some t)
    Honours a t source filename ↔
      t.handlers ≠ [] ∨ (∀ raw ∈ source.lines, mnemonicOf a.config raw = none) ∨
        ¬KnowsAll a.config MnemonicTable.standard source.lines := by
  dsimp only
  have hown := honours_mnemonics _ valid filename hf hl
  have hmake : (Assembler.make config (some t)).mnemonics =
      if t.handlers = [] then MnemonicTable.standard else t := rfl
  by_cases ht : t.handlers = []
  · rw [hmake, if_pos ht] at hown
    rw [honours_empty_iff ht hown]
    simp [ht]
  · rw [hmake, if_neg ht] at hown
    exact iff_of_true hown (Or.inl ht)

/-- A table of two mnemonics that are not standard, one of them written in another case. -/
theorem two_given_mnemonics_honoured :
    let t : MnemonicTable :=
      ⟨[⟨['n', 'o', 'p'], 2, by decide⟩, ⟨['d', 'w'], 5, by decide⟩], by decide⟩
    let source := Source.ofText "a: NOP\nb:\n dw a ; b\n"
    let config := (Assembler.make none (some t)).config
    config.Valid ∧ source.fault = none ∧ WellLabelled config source.lines ∧
      Honours (Assembler.make none (some t)) t source "p.asm" := by
  have valid : (Assembler.make none none).config.Valid := by decide +kernel
  have hl : WellLabelled {} (Source.ofText "a: NOP\nb:\n dw a ; b\n").lines :=
    ⟨by decide +kernel, by decide +kernel, by decide +kernel⟩
  refine ⟨valid, rfl, hl, ?_⟩
  exact (honours_given_iff none _ _ "p.asm" valid rfl hl).mpr (Or.inl (by simp))

/-- The empty table knows no mnemonic, but an assembler that is given it handles a standard one. -/
theorem empty_mnemonics_not_honoured :
    ¬∀ (config : Option Config) (t : MnemonicTable) (source : Source) (filename : Text),
      (Assembler.make config (some t)).config.Valid → source.fault = none →
        WellLabelled (Assembler.make config (some t)).config source.lines →
          Honours (Assembler.make config (some t)) t source filename := by
  intro hall
  have hl : WellLabelled {} (Source.ofText "db 1\n").lines :=
    ⟨by decide +kernel, by decide +kernel, by decide +kernel⟩
  have h := hall none {} (Source.ofText "db 1\n") "<input>" (by decide +kernel) rfl hl
  have hcompletes : ((Assembler.make none (some {})).assembleSource (Source.ofText "db 1\n")
      "<input>").failure = none := by decide +kernel
  obtain ⟨handler, hmem, -⟩ := h.completes.mp hcompletes "db 1\n".toList (by decide +kernel)
    ['d', 'b'] (by decide +kernel)
  cases hmem

end OnePass.Proofs
