import OnePass.Proofs.ByteOrderMark
import OnePass.Proofs.SourceRun

/-!
# Failures to assemble a file

A file fails with a diagnostic, except in two cases that the check of settings lets pass: the name
of the encoding stands for a conversion that is not for text, or the encoding needs a byte-order
mark and the file lacks it.
-/

namespace OnePass.Proofs

section Names

lemma mem_of_mem_pieces {c separator : Char} {p s : Text} (hp : p ∈ Text.pieces separator s)
    (hc : c ∈ p) : c ∈ s := by
  induction s generalizing p with
  | nil =>
    simp only [Text.pieces, List.mem_singleton] at hp
    rw [hp] at hc
    exact absurd hc (by simp)
  | cons d s ih =>
    unfold Text.pieces at hp
    split_ifs at hp with hd
    · obtain rfl | hp := List.mem_cons.mp hp
      · exact absurd hc (by simp)
      · exact List.mem_cons_of_mem d (ih hp hc)
    · cases hs : Text.pieces separator s with
      | nil =>
        simp only [hs, List.mem_singleton] at hp
        rw [hp, List.mem_singleton] at hc
        exact hc ▸ List.mem_cons_self
      | cons q qs =>
        simp only [hs, List.mem_cons] at hp
        obtain rfl | hp := hp
        · obtain rfl | hc := List.mem_cons.mp hc
          · exact List.mem_cons_self
          · exact List.mem_cons_of_mem d (ih (hs ▸ List.mem_cons_self) hc)
        · exact List.mem_cons_of_mem d (ih (hs ▸ List.mem_cons_of_mem q hp) hc)

lemma mem_of_mem_join {c : Char} {separator : Text} {parts : List Text}
    (hc : c ∈ Text.join separator parts) : c ∈ separator ∨ ∃ p ∈ parts, c ∈ p := by
  induction parts with
  | nil => exact absurd hc (by simp [Text.join])
  | cons p parts ih =>
    cases parts with
    | nil => exact Or.inr ⟨p, by simp, hc⟩
    | cons q qs =>
      simp only [Text.join, List.mem_append] at hc
      obtain (hp | hsep) | hrest := hc
      · exact Or.inr ⟨p, by simp, hp⟩
      · exact Or.inl hsep
      · obtain hsep | ⟨r, hr, hcr⟩ := ih hrest
        · exact Or.inl hsep
        · exact Or.inr ⟨r, List.mem_cons_of_mem p hr, hcr⟩

lemma mem_toText_ofText {c : Char} {path : Text} (hc : c ∈ (Path.ofText path).toText) :
    c = '.' ∨ c = '/' ∨ c ∈ path := by
  unfold Path.toText at hc
  split_ifs at hc with hempty
  · exact Or.inl (List.mem_singleton.mp hc)
  · obtain hroot | hnames := List.mem_append.mp hc
    · have hslash : ∀ x ∈ (Path.ofText path).root, x = '/' := by
        unfold Path.ofText
        dsimp only
        split <;> simp
      exact Or.inr (Or.inl (hslash c hroot))
    · obtain hsep | ⟨p, hp, hcp⟩ := mem_of_mem_join hnames
      · exact Or.inr (Or.inl (List.mem_singleton.mp hsep))
      · exact Or.inr (Or.inr (mem_of_mem_pieces (List.mem_of_mem_filter hp) hcp))

lemma null_not_mem_toText {path : Text} (h : '\x00' ∉ path) :
    '\x00' ∉ (Path.ofText path).toText := by
  intro hc
  obtain hdot | hslash | hmem := mem_toText_ofText hc
  · exact absurd hdot (by decide)
  · exact absurd hslash (by decide)
  · exact h hmem

end Names

/-- The three ways in which opening a file ends when the names have no null character and the
encoding is known. -/
inductive Opening (files : FileTree) (filename encoding : Text) : Except OpenError Source → Prop where
  | absent {error : PathError} (h : files.read filename = .error error) :
      Opening files filename encoding (.error (.path error))
  | conversion {bytes : Bytes} (h : files.read filename = .ok bytes)
      (hc : Codec.ofName? encoding = some .conversion) :
      Opening files filename encoding (.error (.encoding (.notText encoding)))
  | opened {bytes : Bytes} {e : Encoding} (h : files.read filename = .ok bytes)
      (hc : Codec.ofName? encoding = some (.text e)) :
      Opening files filename encoding (.ok (Source.ofBytes e bytes))

lemma readText_opening {config : Config} (valid : config.Valid) (files : FileTree)
    {filename : Text} (hname : '\x00' ∉ filename) :
    Opening files filename config.encoding (files.readText filename config.encoding) := by
  obtain ⟨-, -, -, hnull, hknown⟩ := (valid_iff config).mp valid
  have hcheck : checkNames filename config.encoding = .ok () := by
    unfold checkNames
    rw [if_neg hnull, if_neg hname]
  unfold FileTree.readText
  rw [hcheck]
  dsimp only
  cases hread : files.read filename with
  | error error => exact .absent hread
  | ok bytes =>
    unfold Encoding.ofName
    cases hc : Codec.ofName? config.encoding with
    | none => exact absurd hc hknown
    | some codec =>
      cases codec with
      | conversion => exact .conversion hread hc
      | text e => exact .opened hread hc

lemma readText_of_read {config : Config} (valid : config.Valid) {files : FileTree}
    {filename : Text} (hname : '\x00' ∉ filename) {e : Encoding}
    (hencoding : Encoding.ofName config.encoding = .ok e) {bytes : Bytes}
    (hread : files.read filename = .ok bytes) :
    files.readText filename config.encoding = .ok (Source.ofBytes e bytes) := by
  have hopening := readText_opening valid files hname
  generalize files.readText filename config.encoding = outcome at hopening ⊢
  cases hopening with
  | absent h =>
    rw [hread] at h
    cases h
  | conversion h hc =>
    rw [Encoding.ofName, hc] at hencoding
    cases hencoding
  | opened h hc =>
    rw [hread, Except.ok.injEq] at h
    subst h
    rw [Encoding.ofName, hc, Except.ok.injEq] at hencoding
    rw [hencoding]

section Assembling

variable (a : Assembler) (files : FileTree) (path : Text)

/-- The file is there, but its encoding is not for text, or it lacks the byte-order mark that the
encoding asks for. -/
def Escapes : Prop :=
  ∃ bytes, files.read (Path.ofText path).toText = .ok bytes ∧
    (Codec.ofName? a.config.encoding = some .conversion ∨
      Codec.ofName? a.config.encoding = some (.text .markedUtf16) ∧ LacksMark bytes)

/-- The file cannot be opened, or all lines it delivers are handled and then reading it fails. -/
inductive ReadingFails : Prop where
  | opening {error : OpenError}
      (h : files.readText (Path.ofText path).toText a.config.encoding = .error error)
  | reading {source : Source} {fault : ReadFault}
      (h : files.readText (Path.ofText path).toText a.config.encoding = .ok source)
      (reached : (passOver a (Path.ofText path).toText source.lines).failure = none)
      (hf : source.fault = some fault)

/-- Assembling the file gives a table of symbols or a diagnostic, and the diagnostic that the file is
unreadable whenever it cannot be opened or read to its end. -/
structure FailsWithDiagnostics : Prop where
  returns : (a.assembleFile files path).failure = none →
    ∃ table, (a.assembleFile files path).assembler.symbols = .ok table
  raises : ∀ error, (a.assembleFile files path).failure = some error → ∃ d, error = .diagnostic d
  unreadable : ReadingFails a files path → ∃ reason,
    (a.assembleFile files path).failure =
      some (.diagnostic ⟨.unreadable (Path.ofText path).toText reason, none, none⟩)

variable {a files path}

lemma assembleFile_of_error {error : OpenError}
    (h : files.readText (Path.ofText path).toText a.config.encoding = .error error) :
    (a.assembleFile files path).failure =
      some (Assembler.openFailure (Path.ofText path).toText error) := by
  unfold Assembler.assembleFile
  simp only [h]

lemma assembleFile_of_ok {source : Source}
    (h : files.readText (Path.ofText path).toText a.config.encoding = .ok source) :
    (a.assembleFile files path).failure =
        (a.assembleSource source (Path.ofText path).toText).failure ∧
      (a.assembleFile files path).assembler =
        (a.assembleSource source (Path.ofText path).toText).assembler := by
  unfold Assembler.assembleFile
  simp only [h, and_self]

lemma failsWithDiagnostics_of_unreadable {reason : Text}
    (h : (a.assembleFile files path).failure =
      some (.diagnostic ⟨.unreadable (Path.ofText path).toText reason, none, none⟩)) :
    FailsWithDiagnostics a files path := by
  constructor
  · intro hnone
    rw [h] at hnone
    cases hnone
  · intro error herror
    rw [h, Option.some.injEq] at herror
    exact ⟨_, herror.symm⟩
  · intro _
    exact ⟨reason, h⟩

lemma failsWithDiagnostics_of_opened {source : Source}
    (h : files.readText (Path.ofText path).toText a.config.encoding = .ok source)
    (hmark : source.fault ≠ some .noByteOrderMark) : FailsWithDiagnostics a files path := by
  obtain ⟨hfail, hassembler⟩ := assembleFile_of_ok h
  have hreading : ReadingFails a files path →
      (passOver a (Path.ofText path).toText source.lines).failure = none ∧ source.fault ≠ none := by
    intro hr
    cases hr with
    | opening h' =>
      rw [h] at h'
      cases h'
    | reading h' reached hf =>
      rw [h, Except.ok.injEq] at h'
      subst h'
      exact ⟨reached, by simp [hf]⟩
  cases hp : (passOver a (Path.ofText path).toText source.lines).failure with
  | some d =>
    rw [assembleSource_of_stopped source hp] at hfail
    constructor
    · intro hnone
      rw [hfail] at hnone
      cases hnone
    · intro error herror
      rw [hfail, Option.some.injEq] at herror
      exact ⟨d, herror.symm⟩
    · intro hr
      have hreached := (hreading hr).1
      rw [hp] at hreached
      cases hreached
  | none =>
    cases hf : source.fault with
    | none =>
      rw [assembleSource_of_completed source hp hf] at hfail hassembler
      constructor
      · intro _
        rw [hassembler]
        exact ⟨_, rfl⟩
      · intro error herror
        rw [hfail] at herror
        cases herror
      · intro hr
        exact absurd hf (hreading hr).2
    | some fault =>
      rw [assembleSource_of_broken source hp hf] at hfail
      cases fault with
      | noByteOrderMark => exact absurd hf hmark
      | undecodable fault => exact failsWithDiagnostics_of_unreadable hfail

lemma not_failsWithDiagnostics_of_conversion {error : EncodingError}
    (h : files.readText (Path.ofText path).toText a.config.encoding = .error (.encoding error)) :
    ¬FailsWithDiagnostics a files path := by
  intro hall
  obtain ⟨d, hd⟩ := hall.raises _ (assembleFile_of_error h)
  exact absurd hd (by simp [Assembler.openFailure])

lemma not_failsWithDiagnostics_of_lacksMark
    (h : files.readText (Path.ofText path).toText a.config.encoding =
      .ok ⟨[], some .noByteOrderMark⟩) :
    ¬FailsWithDiagnostics a files path := by
  intro hall
  have hfail := (assembleFile_of_ok h).1
  rw [assembleSource_of_broken ⟨[], some .noByteOrderMark⟩ rfl rfl] at hfail
  obtain ⟨d, hd⟩ := hall.raises _ hfail
  exact absurd hd (by simp [Assembler.readFailure])

end Assembling

/-- With valid settings and a path without the null character, assembling a file gives a table of
symbols or a diagnostic just when neither of the two cases that escape is met. -/
theorem failsWithDiagnostics_iff_not_escapes (a : Assembler) (valid : a.config.Valid)
    (files : FileTree) (path : Text) (hpath : '\x00' ∉ path) :
    FailsWithDiagnostics a files path ↔ ¬Escapes a files path := by
  have hopening := readText_opening valid files (null_not_mem_toText hpath)
  generalize hread : files.readText (Path.ofText path).toText a.config.encoding = outcome
    at hopening
  cases hopening with
  | absent h =>
    refine iff_of_true (failsWithDiagnostics_of_unreadable (assembleFile_of_error hread)) ?_
    rintro ⟨bytes, h', -⟩
    rw [h] at h'
    cases h'
  | conversion h hc =>
    refine iff_of_false (not_failsWithDiagnostics_of_conversion hread) ?_
    rw [not_not]
    exact ⟨_, h, Or.inl hc⟩
  | @opened bytes e h hc =>
    by_cases hmark : (Source.ofBytes e bytes).fault = some .noByteOrderMark
    · obtain ⟨rfl, lacks⟩ := (ofBytes_noByteOrderMark_iff e bytes).mp hmark
      rw [ofBytes_of_lacksMark lacks] at hread
      refine iff_of_false (not_failsWithDiagnostics_of_lacksMark hread) ?_
      rw [not_not]
      exact ⟨bytes, h, Or.inr ⟨hc, lacks⟩⟩
    · refine iff_of_true (failsWithDiagnostics_of_opened hread hmark) ?_
      rintro ⟨bytes', h', hesc⟩
      rw [h, Except.ok.injEq] at h'
      subst h'
      obtain hconversion | ⟨hmarked, lacks⟩ := hesc
      · rw [hc] at hconversion
        cases hconversion
      · rw [hc, Option.some.injEq, Codec.text.injEq] at hmarked
        exact hmark ((ofBytes_noByteOrderMark_iff e bytes).mpr ⟨hmarked, lacks⟩)

/-- A file that is cut off inside a character, after its first line. -/
theorem cut_off_file_fails_with_diagnostics :
    let a : Assembler := {}
    let files := ({} : FileTree).addFile [['p']] [0x61, 0x3A, 0x0A, 0xC3]
    a.config.Valid ∧ '\x00' ∉ ['p'] ∧ FailsWithDiagnostics a files ['p'] ∧
      ReadingFails a files ['p'] := by
  have valid : ({} : Assembler).config.Valid := by decide +kernel
  have hpath : '\x00' ∉ ['p'] := by decide
  have hcodec : Codec.ofName? ({} : Assembler).config.encoding = some (.text (.plain .utf8)) := by
    decide +kernel
  refine ⟨valid, hpath, ?_, ?_⟩
  · refine (failsWithDiagnostics_iff_not_escapes {} valid
      (({} : FileTree).addFile [['p']] [0x61, 0x3A, 0x0A, 0xC3]) ['p'] hpath).mpr ?_
    rintro ⟨bytes, -, hesc⟩
    rw [hcodec] at hesc
    exact absurd hesc (by simp)
  · have hopen : (({} : FileTree).addFile [['p']] [0x61, 0x3A, 0x0A, 0xC3]).readText
        (Path.ofText ['p']).toText ({} : Assembler).config.encoding =
        .ok (Source.ofBytes (.plain .utf8) [0x61, 0x3A, 0x0A, 0xC3]) := by
      decide +kernel
    exact .reading hopen (by decide +kernel)
      (show _ = some (.undecodable ⟨.utf8, 0, [0xC3], .unexpectedEnd⟩) by decide +kernel)

/-- A file of one label in UTF-16, without a byte-order mark. -/
theorem unmarked_file_fails_without_diagnostic :
    ¬∀ (a : Assembler) (files : FileTree) (path : Text), a.config.Valid → '\x00' ∉ path →
      FailsWithDiagnostics a files path := by
  intro hall
  let a : Assembler := { config := { encoding := "utf-16" } }
  let files := ({} : FileTree).addFile [['p']] [0x61, 0x00, 0x3A, 0x00, 0x0A, 0x00]
  have valid : a.config.Valid := by decide +kernel
  have hfail : (a.assembleFile files ['p']).failure = some .noByteOrderMark := by decide +kernel
  obtain ⟨d, hd⟩ := (hall a files ['p'] valid (by decide)).raises _ hfail
  exact absurd hd (by simp)

end OnePass.Proofs
