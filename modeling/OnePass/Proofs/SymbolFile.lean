import OnePass.Proofs.DamagedBytes
import OnePass.Proofs.FileFailures
import OnePass.Proofs.FileWriting
import OnePass.Proofs.ScanSplit
import OnePass.Proofs.StaleResults

/-!
# Symbol files

Once a file has been assembled, its symbols can be written in the same encoding: a label has no
characters but those of its line, and a scheme can write the characters that it has read. So the
symbol file is either written in full, or it cannot be opened and nothing is changed.
-/

namespace OnePass.Proofs

open scoped List

section Labels

lemma nextField_sublist {s first rest : Text} (h : Text.nextField s = some (first, rest)) :
    first <+ s := by
  unfold Text.nextField at h
  cases hs : s.dropWhile Text.isBlank with
  | nil => simp [hs] at h
  | cons c t =>
    simp only [hs, Option.some.injEq, Prod.mk.injEq] at h
    obtain ⟨rfl, -⟩ := h
    have hfield : c :: t.takeWhile (fun d => !Text.isBlank d) <+ c :: t :=
      (List.takeWhile_sublist _).cons_cons c
    rw [← hs] at hfield
    exact hfield.trans (List.dropWhile_sublist _)

lemma nextField_of_labelOf {config : Config} {raw name : Text}
    (h : labelOf config raw = some name) :
    ∃ first rest, Text.nextField (Line.strip config raw) = some (first, rest) ∧
      name = first.take (first.length - config.labelMark.length) := by
  rw [labelOf, lineFields] at h
  cases hn : Text.nextField (Line.strip config raw) with
  | none =>
    rw [(nextField_eq_none_iff _).mp hn] at h
    cases h
  | some next =>
    obtain ⟨first, rest⟩ := next
    rw [fields_of_nextField hn, labelIn] at h
    split_ifs at h
    exact ⟨first, rest, rfl, (Option.some.inj h).symm⟩

theorem labelOf_sublist {config : Config} {raw name : Text} (h : labelOf config raw = some name) :
    name <+ raw := by
  obtain ⟨first, rest, hn, rfl⟩ := nextField_of_labelOf h
  calc first.take (first.length - config.labelMark.length)
    _ <+ first := List.take_sublist _ _
    _ <+ Line.strip config raw := nextField_sublist hn
    _ <+ raw := (strip_isPrefix config raw).sublist

lemma labelOf_of_mem_declarations {c : Config} {t : MnemonicTable} {filename : Text}
    {lines : List Text} {s : Symbol} (h : s ∈ declarations c t filename lines) :
    ∃ raw ∈ lines, labelOf c raw = some s.name := by
  have hname : s.name ∈ lines.filterMap (labelOf c) := by
    rw [← declarations_names c t filename lines]
    exact List.mem_map_of_mem h
  exact List.mem_filterMap.mp hname

end Labels

/-- A printable character of ASCII. -/
def IsPrintableAscii (c : Char) : Prop := 0x20 ≤ c.toNat ∧ c.toNat < 0x7F

instance (c : Char) : Decidable (IsPrintableAscii c) := inferInstanceAs (Decidable (_ ∧ _))

section Characters

variable {s : Scheme}

lemma canWrite_of_ascii (s : Scheme) {c : Char} (h : c.toNat < 0x80) : s.canWrite c = true := by
  cases s with
  | utf8 => rfl
  | utf16 order => rfl
  | ascii => exact decide_eq_true h
  | latin1 => exact decide_eq_true (by omega)

lemma mem_ofInt {n : Int} {c : Char} (h : c ∈ Text.ofInt n) : c = '-' ∨ c.isDigit = true := by
  have hdigit : ∀ k : Nat, c ∈ Text.ofNat k → c.isDigit = true :=
    fun k hk => Nat.isDigit_of_mem_toDigits (by decide) (by decide) hk
  cases n with
  | ofNat k => exact Or.inr (hdigit k h)
  | negSucc k =>
    obtain rfl | h := List.mem_cons.mp h
    · exact Or.inl rfl
    · exact Or.inr (hdigit (k + 1) h)

lemma not_mem_ofInt {c : Char} (hminus : c ≠ '-') (hdigit : c.isDigit = false) (n : Int) :
    c ∉ Text.ofInt n := by
  intro h
  obtain h | h := mem_ofInt h
  · exact hminus h
  · exact absurd (hdigit.symm.trans h) (by decide)

lemma mem_zeroPadded {width : Nat} {n : Int} {c : Char} (h : c ∈ Text.zeroPadded width n) :
    c = '0' ∨ c ∈ Text.ofInt n := by
  cases n with
  | ofNat k =>
    obtain h | h := List.mem_append.mp h
    · exact Or.inl (List.eq_of_mem_replicate h)
    · exact Or.inr h
  | negSucc k =>
    obtain rfl | h := List.mem_cons.mp h
    · exact Or.inr List.mem_cons_self
    · obtain h | h := List.mem_append.mp h
      · exact Or.inl (List.eq_of_mem_replicate h)
      · exact Or.inr (List.mem_cons_of_mem _ h)

lemma isPrintableAscii_ofInt {n : Int} {c : Char} (h : c ∈ Text.ofInt n) : IsPrintableAscii c := by
  obtain rfl | hdigit := mem_ofInt h
  · decide
  · rw [Char.isDigit, Bool.and_eq_true, decide_eq_true_eq, decide_eq_true_eq] at hdigit
    exact ⟨le_trans (by decide) hdigit.1, Nat.lt_of_le_of_lt hdigit.2 (by decide)⟩

/-- Whoever has read a file to its end can write its characters. -/
theorem canWrite_of_read {e : Encoding} {bytes : Bytes}
    (h : (Source.ofBytes e bytes).fault = none) {line : Text}
    (hline : line ∈ (Source.ofBytes e bytes).lines) {c : Char} (hc : c ∈ line) :
    e.writer.canWrite c = true := by
  cases e with
  | signedUtf8 => rfl
  | markedUtf16 => rfl
  | plain s =>
    obtain ⟨text, htext⟩ := (ofBytes_fault_eq_none_iff s bytes).mp h
    rw [ofBytes_of_encode htext] at hline
    have hmem : c ∈ (Text.sourceLines text).flatten := List.mem_flatten.mpr ⟨line, hline, hc⟩
    rw [flatten_sourceLines] at hmem
    exact (encode_eq_ok_iff.mp htext).1 c hmem

end Characters

/-- The text of a symbol file. -/
def symbolFileText (symbols : List Symbol) : Text :=
  (fileHeader ++ symbols.map Symbol.fileLine).flatten

lemma canWrite_fileHeader (s : Scheme) :
    ∀ piece ∈ fileHeader, ∀ c ∈ piece, s.canWrite c = true := by
  intro piece hpiece c hc
  have hascii : (fileHeader.all fun piece => piece.all fun c => decide (c.toNat < 0x80)) = true :=
    by decide
  have hline := List.all_eq_true.mp hascii piece hpiece
  exact canWrite_of_ascii s (of_decide_eq_true (List.all_eq_true.mp hline c hc))

lemma canWrite_fileLine {s : Scheme} {r : Symbol} (h : ∀ c ∈ r.name, s.canWrite c = true) :
    ∀ c ∈ r.fileLine, s.canWrite c = true := by
  have hspace : s.canWrite ' ' = true := canWrite_of_ascii s (by decide)
  have hend : s.canWrite '\n' = true := canWrite_of_ascii s (by decide)
  have hnumber : ∀ n : Int, ∀ c ∈ Text.ofInt n, s.canWrite c = true :=
    fun n c hc => canWrite_of_ascii s (lt_trans (isPrintableAscii_ofInt hc).2 (by decide))
  have happend : ∀ a b : Text, (∀ c ∈ a, s.canWrite c = true) → (∀ c ∈ b, s.canWrite c = true) →
      ∀ c ∈ a ++ b, s.canWrite c = true :=
    fun a b ha hb => List.forall_mem_append.mpr ⟨ha, hb⟩
  unfold Symbol.fileLine
  apply happend
  · apply happend
    · apply happend
      · apply happend
        · apply happend
          · exact h
          · exact List.forall_mem_singleton.mpr hspace
        · exact hnumber r.offset
      · exact List.forall_mem_singleton.mpr hspace
    · exact hnumber r.line
  · exact List.forall_mem_singleton.mpr hend

lemma canWrite_fileLines {s : Scheme} {symbols : List Symbol}
    (h : ∀ r ∈ symbols, ∀ c ∈ r.name, s.canWrite c = true) :
    ∀ piece ∈ fileHeader ++ symbols.map Symbol.fileLine, ∀ c ∈ piece, s.canWrite c = true := by
  intro piece hpiece
  rcases List.mem_append.mp hpiece with hheader | hline
  · exact canWrite_fileHeader s piece hheader
  · obtain ⟨r, hr, rfl⟩ := List.mem_map.mp hline
    exact canWrite_fileLine (h r hr)

lemma encodeAll_of_canWrite {s : Scheme} {pieces : List Text}
    (h : ∀ piece ∈ pieces, ∀ c ∈ piece, s.canWrite c = true) :
    ∃ bytes, s.encode pieces.flatten = .ok bytes ∧ s.encodeAll pieces = (bytes, none) := by
  induction pieces with
  | nil => exact ⟨[], rfl, rfl⟩
  | cons piece rest ih =>
    obtain ⟨hpiece, hrest⟩ := List.forall_mem_cons.mp h
    obtain ⟨bytes, hbytes, hall⟩ := ih hrest
    have hencode : s.encode piece = .ok (piece.flatMap s.writeChar) :=
      encode_eq_ok_iff.mpr ⟨hpiece, rfl⟩
    obtain ⟨hwritable, hwritten⟩ := encode_eq_ok_iff.mp hbytes
    refine ⟨piece.flatMap s.writeChar ++ bytes, ?_, ?_⟩
    · apply encode_eq_ok_iff.mpr
      rw [List.flatten_cons, List.flatMap_append, hwritten]
      exact ⟨List.forall_mem_append.mpr ⟨hpiece, hwritable⟩, rfl⟩
    · rw [Scheme.encodeAll, hencode, hall]

/-- What becomes of the symbol file at a path: it cannot be opened, and nothing is changed, or it is
written in full. -/
inductive SymbolFileOutcome (files : FileTree) (path : Text) (e : Encoding)
    (symbols : List Symbol) : FileTree × Option SymbolFileError → Prop
  | nameless (h : '\x00' ∈ path) :
      SymbolFileOutcome files path e symbols (files, some (.write (.unopened .nullInPath)))
  | unopened {error : PathError} (h : files.destination path = .error error) :
      SymbolFileOutcome files path e symbols (files, some (.write (.unopened (.path error))))
  | written {place : List Text} {bytes : Bytes} (h : files.destination path = .ok place)
      (content : e.encode (symbolFileText symbols) = .ok bytes) :
      SymbolFileOutcome files path e symbols (files.putFile place bytes, none)

/-- Symbols that a scheme can write are written in full to a file that can be opened. -/
lemma writeText_outcome {encoding : Text} {e : Encoding} (hnull : '\x00' ∉ encoding)
    (hencoding : Encoding.ofName encoding = .ok e) {t : SymbolTable}
    (h : ∀ r ∈ t.symbols, ∀ c ∈ r.name, e.writer.canWrite c = true) (files : FileTree)
    (path : Text) :
    SymbolFileOutcome files path e t.symbols
      ((files.writeText path encoding t.fileLines).1,
        (files.writeText path encoding t.fileLines).2.map .write) := by
  obtain ⟨bytes, hbytes, hall⟩ := encodeAll_of_canWrite (canWrite_fileLines h)
  change e.writer.encodeAll t.fileLines = (bytes, none) at hall
  unfold FileTree.writeText checkNames
  rw [if_neg hnull]
  by_cases hpath : '\x00' ∈ path
  · rw [if_pos hpath]
    exact .nameless hpath
  · rw [if_neg hpath]
    cases hd : files.destination path with
    | error error => exact .unopened hd
    | ok place =>
      have hcontent : e.encode (symbolFileText t.symbols) = .ok (e.mark ++ bytes) := by
        rw [Encoding.encode, symbolFileText, hbytes]
        rfl
      simp only [hencoding, hall]
      exact .written hd hcontent

section Assembled

variable {a : Assembler} {files : FileTree} {path : Text}

/-- A file has been assembled: what it held, and the session that its lines have led to, which is
now reported. -/
structure AssembledFrom (a : Assembler) (files : FileTree) (path : Text) (e : Encoding)
    (bytes : Bytes) (s : Session) : Prop where
  returns : (a.assembleFile files path).failure = none
  encoding : Encoding.ofName a.config.encoding = .ok e
  encoding_named : '\x00' ∉ a.config.encoding
  read : files.read (Path.ofText path).toText = .ok bytes
  whole : (Source.ofBytes e bytes).fault = none
  reached : Reached a (Path.ofText path).toText (Source.ofBytes e bytes).lines s
  reports : Reports (a.assembleFile files path).assembler s
  config : (a.assembleFile files path).assembler.config = a.config

lemma read_of_readText {filename encoding : Text} {source : Source}
    (h : files.readText filename encoding = .ok source) :
    ∃ e bytes, Encoding.ofName encoding = .ok e ∧ '\x00' ∉ encoding ∧
      files.read filename = .ok bytes ∧ source = Source.ofBytes e bytes := by
  unfold FileTree.readText checkNames at h
  split_ifs at h with hnull hname
  cases hread : files.read filename with
  | error error => simp [hread] at h
  | ok bytes =>
    cases hencoding : Encoding.ofName encoding with
    | error error => simp [hread, hencoding] at h
    | ok e =>
      simp only [hread, hencoding, Except.ok.injEq] at h
      exact ⟨e, bytes, rfl, hnull, rfl, h.symm⟩

theorem assembledFrom_of_returns (valid : a.config.Valid)
    (h : (a.assembleFile files path).failure = none) :
    ∃ e bytes s, AssembledFrom a files path e bytes s := by
  cases hopen : files.readText (Path.ofText path).toText a.config.encoding with
  | error error =>
    rw [assembleFile_of_error hopen] at h
    cases h
  | ok source =>
    obtain ⟨e, bytes, hencoding, hnull, hread, rfl⟩ := read_of_readText hopen
    obtain ⟨hfailure, hassembler⟩ := assembleFile_of_ok hopen
    have hreturns := h
    rw [hfailure] at h
    have hleaves := assembleSource_leaves a (Source.ofBytes e bytes) (Path.ofText path).toText
    dsimp only at hleaves
    rw [← hassembler] at hleaves
    obtain ⟨hconfig, -, hsession, hcomplete⟩ := hleaves
    obtain ⟨hpass, hwhole⟩ := (assembleSource_returns_iff _ _ _).mp h
    have hreach := passOver_reaches a (Path.ofText path).toText (Source.ofBytes e bytes).lines
      (labelMark_ne_nil valid)
    exact ⟨e, bytes, _, hreturns, hencoding, hnull, hread, hwhole, hreach.2 hpass,
      reports_of_complete (hcomplete.mpr h) hsession, hconfig⟩

/-- The symbols of a file that has been assembled are written in full, or the symbol file cannot be
opened and nothing is changed. -/
theorem writeSymbols_outcome {e : Encoding} {bytes : Bytes} {s : Session}
    (h : AssembledFrom a files path e bytes s) (files' : FileTree) (target : Text) :
    SymbolFileOutcome files' target e s.symbols.symbols
      ((a.assembleFile files path).assembler.writeSymbols files' target) := by
  rw [h.reports.file, h.config]
  apply writeText_outcome h.encoding_named h.encoding
  intro r hr c hc
  rw [h.reached.symbols] at hr
  obtain ⟨raw, hraw, hlabel⟩ := labelOf_of_mem_declarations hr
  exact canWrite_of_read h.whole hraw ((labelOf_sublist hlabel).subset hc)

end Assembled

end OnePass.Proofs
