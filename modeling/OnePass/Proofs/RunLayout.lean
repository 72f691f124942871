import OnePass.Assembler
import OnePass.Proofs.LineVerdict
import OnePass.Proofs.PassSplit

/-!
# The layout of a run

What a run over some lines declares and how far it gets can be said without running it: every
labelled line stands for a symbol at the sum of the sizes on the lines before it. A run reaches
this layout just when four conditions hold of its lines as a whole. The layout is the invariant
that each accepted line keeps.
-/

namespace OnePass.Proofs

/-- The sum of the sizes of the mnemonics on some lines. -/
def totalSize (c : Config) (t : MnemonicTable) : List Text → Nat
  | [] => 0
  | raw :: rest => lineSize c t raw + totalSize c t rest

/-- The symbols that some lines declare: for each labelled line, in line order, the name as written,
the sum of the sizes on the lines before it and its number, counted from one. -/
def declarations (c : Config) (t : MnemonicTable) (filename : Text) (lines : List Text) :
    List Symbol :=
  lines.zipIdx.filterMap fun entry => (labelOf c entry.1).map fun name =>
    { name
      offset := totalSize c t (lines.take entry.2)
      line := entry.2 + 1
      location := ⟨filename, entry.2 + 1⟩ }

/-- What makes a run over some lines complete. -/
structure WellFormed (c : Config) (t : MnemonicTable) (lines : List Text) : Prop where
  short : ∀ raw ∈ lines, raw.length < c.lineLimit
  named : ∀ raw ∈ lines, (lineFields c raw).head? ≠ some c.labelMark
  distinct : ((lines.filterMap (labelOf c)).map Text.foldCase).Nodup
  known : ∀ raw ∈ lines, ∀ m, mnemonicOf c raw = some m →
    ∃ h ∈ t.handlers, Text.foldCase h.keyword = Text.foldCase m

/-- A session that has taken in some lines: the settings of its assembler and the layout. -/
structure Reached (a : Assembler) (filename : Text) (lines : List Text) (s : Session) : Prop where
  config : s.config = a.config
  mnemonics : s.mnemonics = a.mnemonics
  filename_eq : s.filename = filename
  address : s.address = totalSize a.config a.mnemonics lines
  symbols : s.symbols.symbols = declarations a.config a.mnemonics filename lines

lemma totalSize_snoc (c : Config) (t : MnemonicTable) (lines : List Text) (raw : Text) :
    totalSize c t (lines ++ [raw]) = totalSize c t lines + lineSize c t raw := by
  induction lines with
  | nil => simp [totalSize]
  | cons first lines ih =>
    rw [List.cons_append, totalSize, totalSize, ih]
    omega

lemma declarations_snoc (c : Config) (t : MnemonicTable) (filename : Text) (lines : List Text)
    (raw : Text) :
    declarations c t filename (lines ++ [raw]) = declarations c t filename lines ++
      (labelOf c raw).toList.map fun name =>
        { name
          offset := totalSize c t lines
          line := lines.length + 1
          location := ⟨filename, lines.length + 1⟩ } := by
  unfold declarations
  rw [List.zipIdx_append, List.filterMap_append]
  congr 1
  · apply List.filterMap_congr
    intro entry h
    have hi := (List.mem_zipIdx' h).1
    rw [List.take_append_of_le_length (by omega)]
  · cases hl : labelOf c raw <;> simp [hl]

lemma declarations_names (c : Config) (t : MnemonicTable) (filename : Text) (lines : List Text) :
    (declarations c t filename lines).map Symbol.name = lines.filterMap (labelOf c) := by
  induction lines using List.reverseRecOn with
  | nil => rfl
  | append_singleton lines raw ih =>
    rw [declarations_snoc, List.map_append, ih, List.filterMap_append]
    cases hl : labelOf c raw <;> simp [hl]

lemma wellFormed_nil (c : Config) (t : MnemonicTable) : WellFormed c t [] :=
  ⟨by simp, by simp, by simp, by simp⟩

/-- One more line keeps the conditions just when it meets its own and its label is new. -/
lemma wellFormed_snoc_iff (c : Config) (t : MnemonicTable) (lines : List Text) (raw : Text) :
    WellFormed c t (lines ++ [raw]) ↔ WellFormed c t lines ∧ raw.length < c.lineLimit ∧
      (lineFields c raw).head? ≠ some c.labelMark ∧
      (∀ name, labelOf c raw = some name →
        Text.foldCase name ∉ (lines.filterMap (labelOf c)).map Text.foldCase) ∧
      ∀ m, mnemonicOf c raw = some m →
        ∃ h ∈ t.handlers, Text.foldCase h.keyword = Text.foldCase m := by
  have hlabels : ((lines ++ [raw]).filterMap (labelOf c)).map Text.foldCase =
      (lines.filterMap (labelOf c)).map Text.foldCase ++
        (labelOf c raw).toList.map Text.foldCase := by
    rw [List.filterMap_append, List.map_append]
    cases hl : labelOf c raw <;> simp [hl]
  constructor
  · rintro ⟨short, named, distinct, known⟩
    rw [hlabels] at distinct
    obtain ⟨short, hshort⟩ := List.forall_mem_append.mp short
    obtain ⟨named, hnamed⟩ := List.forall_mem_append.mp named
    obtain ⟨known, hknown⟩ := List.forall_mem_append.mp known
    refine ⟨⟨short, named, distinct.of_append_left, known⟩, hshort raw (by simp),
      hnamed raw (by simp), ?_, hknown raw (by simp)⟩
    intro name hname hmem
    rw [hname] at distinct
    exact (List.nodup_append.mp distinct).2.2 _ hmem _ (by simp) rfl
  · rintro ⟨⟨short, named, distinct, known⟩, hshort, hnamed, hnew, hknown⟩
    refine ⟨List.forall_mem_append.mpr ⟨short, List.forall_mem_singleton.mpr hshort⟩,
      List.forall_mem_append.mpr ⟨named, List.forall_mem_singleton.mpr hnamed⟩, ?_,
      List.forall_mem_append.mpr ⟨known, List.forall_mem_singleton.mpr hknown⟩⟩
    rw [hlabels]
    cases hl : labelOf c raw with
    | none => simpa using distinct
    | some name => exact nodup_append_singleton distinct (hnew name hl)

lemma reached_nil (a : Assembler) (filename : Text) :
    Reached a filename [] (a.newSession filename) :=
  ⟨rfl, rfl, rfl, rfl, rfl⟩

lemma reached_symbol_names {a : Assembler} {filename : Text} {lines : List Text} {s : Session}
    (h : Reached a filename lines s) :
    s.symbols.symbols.map (fun r => Text.foldCase r.name) =
      (lines.filterMap (labelOf a.config)).map Text.foldCase := by
  rw [h.symbols, ← declarations_names a.config a.mnemonics filename lines, List.map_map]
  rfl

/-- A session that has taken in well-formed lines accepts just the lines that keep them so. -/
theorem accepts_iff {a : Assembler} {filename : Text} {lines : List Text} {s : Session}
    (h : Reached a filename lines s) (hw : WellFormed a.config a.mnemonics lines) (raw : Text) :
    Accepts s raw ↔ WellFormed a.config a.mnemonics (lines ++ [raw]) := by
  have hnew : ∀ name, s.symbols.find? name = none ↔
      Text.foldCase name ∉ (lines.filterMap (labelOf a.config)).map Text.foldCase := by
    intro name
    rw [symbol_find?_eq_none_iff, ← reached_symbol_names h]
    simp
  have hknown : ∀ m, s.mnemonics.find? m ≠ none ↔
      ∃ h ∈ a.mnemonics.handlers, Text.foldCase h.keyword = Text.foldCase m := by
    intro m
    rw [h.mnemonics, ne_eq, mnemonic_find?_eq_none_iff]
    push Not
    rfl
  rw [wellFormed_snoc_iff]
  constructor
  · rintro ⟨short, named, new, known⟩
    rw [h.config] at short named new known
    exact ⟨hw, short, named, fun name hl => (hnew name).mp (new name hl),
      fun m hm => (hknown m).mp (known m hm)⟩
  · rintro ⟨-, short, named, new, known⟩
    rw [← h.config] at short named new known
    exact ⟨short, named, fun name hl => (hnew name).mpr (h.config ▸ new name hl),
      fun m hm => (hknown m).mpr (known m hm)⟩

theorem reached_advanced {a : Assembler} {filename : Text} {lines : List Text} {s s' : Session}
    {raw : Text} (h : Reached a filename lines s)
    (hs : Advanced s (lines.length + 1 : Nat) raw s') :
    Reached a filename (lines ++ [raw]) s' := by
  refine ⟨hs.config.trans h.config, hs.mnemonics.trans h.mnemonics,
    hs.filename.trans h.filename_eq, ?_, ?_⟩
  · rw [hs.address, h.address, totalSize_snoc, h.config, h.mnemonics]
  · rw [hs.symbols, h.symbols, declarations_snoc, h.config]
    simp [labelSymbols, Session.locate, h.address, h.filename_eq]

/-- The pass of an assembler over some raw lines, in a new session. -/
abbrev passOver (a : Assembler) (filename : Text) (lines : List Text) : Pass :=
  (a.newSession filename).pass a.mnemonics 0 lines

/-- The first line not yet taken is either accepted, and the pass goes on with one more line of the
layout, or it is faulty and stops the pass there. -/
theorem passOver_snoc {a : Assembler} {filename : Text} {lines : List Text}
    (hm : a.config.labelMark ≠ []) (hp : (passOver a filename lines).failure = none)
    (hw : WellFormed a.config a.mnemonics lines)
    (hr : Reached a filename lines (passOver a filename lines).session) (raw : Text) :
    let p := passOver a filename (lines ++ [raw])
    (p.failure = none ∧ WellFormed a.config a.mnemonics (lines ++ [raw]) ∧
        Reached a filename (lines ++ [raw]) p.session) ∨
      ∃ d, p.failure = some d ∧ ¬WellFormed a.config a.mnemonics (lines ++ [raw]) ∧
        Stopped (passOver a filename lines).session (lines.length + 1 : Nat) raw d p.session := by
  have hsnoc : passOver a filename (lines ++ [raw]) = _ := pass_snoc raw hp
  have hv := assembleLine_verdict (passOver a filename lines).session (lines.length + 1 : Nat) raw
    (by rwa [hr.config])
  have hline : ((0 + lines.length : Nat) : Int) + 1 = (lines.length + 1 : Nat) := by
    push_cast
    omega
  rw [hline] at hsnoc
  rw [hr.mnemonics] at hv
  dsimp only at hsnoc hv ⊢
  rw [hsnoc]
  rcases hv with ⟨hf, ha, hs⟩ | ⟨d, hf, ha, hs⟩
  · exact Or.inl ⟨hf, (accepts_iff hr hw raw).mp ha, reached_advanced hr hs⟩
  · exact Or.inr ⟨d, hf, fun h => ha ((accepts_iff hr hw raw).mpr h), hs⟩

/-- A pass over some lines meets no failure just when they are well formed, and then it reaches
their layout. -/
theorem passOver_reaches (a : Assembler) (filename : Text) (lines : List Text)
    (hm : a.config.labelMark ≠ []) :
    ((passOver a filename lines).failure = none ↔ WellFormed a.config a.mnemonics lines) ∧
      ((passOver a filename lines).failure = none →
        Reached a filename lines (passOver a filename lines).session) := by
  induction lines using List.reverseRecOn with
  | nil =>
    exact ⟨iff_of_true rfl (wellFormed_nil _ _), fun _ => reached_nil a filename⟩
  | append_singleton lines raw ih =>
    by_cases hp : (passOver a filename lines).failure = none
    · rcases passOver_snoc hm hp (ih.1.mp hp) (ih.2 hp) raw with ⟨hf, hw, hr⟩ | ⟨d, hf, hw, -⟩
      · exact ⟨iff_of_true hf hw, fun _ => hr⟩
      · have hn : (passOver a filename (lines ++ [raw])).failure ≠ none := by simp [hf]
        exact ⟨iff_of_false hn hw, fun h => absurd h hn⟩
    · have he : passOver a filename (lines ++ [raw]) = passOver a filename lines :=
        pass_append_of_failed [raw] hp
      have hn : (passOver a filename (lines ++ [raw])).failure ≠ none := by rwa [he]
      refine ⟨iff_of_false hn fun hw => ?_, fun h => absurd h hn⟩
      exact hp (ih.1.mpr ((wellFormed_snoc_iff _ _ _ _).mp hw).1)

end OnePass.Proofs
