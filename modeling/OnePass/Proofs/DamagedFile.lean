import OnePass.Proofs.DamagedBytes
import OnePass.Proofs.FileFailures

/-!
# Assembling a damaged file

A file that is not text is not assembled past the damage. The run takes some first lines of the text
before the damage, each of them whole, and ends at a faulty one among them or else for the damage.
It leaves what a run over these lines leaves, except that it is not complete.
-/

namespace OnePass.Proofs

/-- A run over a damaged file stops after the first `k` lines of the text before the damage. -/
structure StopsAfter (a : Assembler) (filename text : Text) (k : Nat) (run : Assembly) : Prop where
  within : k ≤ (Text.sourceLines text).length
  terminated : ∀ line ∈ (Text.sourceLines text).take k, IsTerminated line
  /-- The lines are the same whatever stands in place of the damage. -/
  uncut : ∀ more, (Text.sourceLines (text ++ more)).take k = (Text.sourceLines text).take k
  linesRead : run.linesRead = k
  raises : run.failure ≠ none
  earlier : ∀ m < k,
    (a.assembleLines ((Text.sourceLines text).take m) filename).failure = none
  faulty : ∀ error,
    (a.assembleLines ((Text.sourceLines text).take k) filename).failure = some error →
      run.failure = some error
  unreadable : (a.assembleLines ((Text.sourceLines text).take k) filename).failure = none →
    ∃ fault : DecodeFault,
      run.failure = some (.diagnostic ⟨.unreadable filename fault.message, none, none⟩)
  incomplete : run.assembler.complete = false
  session : run.assembler.session =
    (a.assembleLines ((Text.sourceLines text).take k) filename).assembler.session

lemma take_sourceLines_of_uncut {text : Text} {lines : List Text}
    (h : ∀ more, lines <+: Text.sourceLines (text ++ more)) {k : Nat} (hk : k ≤ lines.length)
    (more : Text) : (Text.sourceLines (text ++ more)).take k = lines.take k := by
  obtain ⟨rest, hrest⟩ := h more
  rw [← hrest, List.take_append_of_le_length hk]

section Undecodable

variable {a : Assembler} {filename : Text} {source : Source} {fault : DecodeFault}
  {lines : List Text}

/-- A source that breaks off is handled as the lines taken from it are, and fails in any case. -/
lemma assembleSource_of_undecodable (hfault : source.fault = some (.undecodable fault))
    (hpass : passOver a filename lines = passOver a filename source.lines) :
    (a.assembleSource source filename).failure =
        some ((a.assembleLines lines filename).failure.getD
          (.diagnostic ⟨.unreadable filename fault.message, none, none⟩)) ∧
      (a.assembleSource source filename).assembler =
        { (a.assembleLines lines filename).assembler with complete := false } := by
  rw [Assembler.assembleLines]
  cases hp : (passOver a filename source.lines).failure with
  | some d =>
    rw [assembleSource_of_stopped source hp, assembleSource_of_stopped ⟨lines, none⟩ (hpass ▸ hp)]
    simp only [hpass, Option.getD_some, and_self]
  | none =>
    rw [assembleSource_of_broken source hp hfault,
      assembleSource_of_completed ⟨lines, none⟩ (hpass ▸ hp) rfl]
    simp only [hpass, Option.getD_none, Assembler.readFailure, and_self]

lemma assembleSource_linesRead (a : Assembler) (source : Source) (filename : Text) :
    (a.assembleSource source filename).linesRead =
      (passOver a filename source.lines).linesRead := by
  cases hp : (passOver a filename source.lines).failure with
  | some d => rw [assembleSource_of_stopped source hp]
  | none =>
    cases hf : source.fault with
    | some fault => rw [assembleSource_of_broken source hp hf]
    | none => rw [assembleSource_of_completed source hp hf]

end Undecodable

theorem stopsAfter_of_breaksOff {text : Text} {source : Source} (h : BreaksOff text source)
    (a : Assembler) (filename : Text) :
    ∃ k, StopsAfter a filename text k (a.assembleSource source filename) := by
  obtain ⟨⟨fault, hfault⟩, hterminated, huncut⟩ := h
  obtain ⟨k, hk, hread, hpass, hearlier⟩ :=
    pass_takes (a.newSession filename) a.mnemonics 0 source.lines
  have hlines (m : Nat) (hm : m ≤ k) (more : Text) :
      (Text.sourceLines (text ++ more)).take m = source.lines.take m :=
    take_sourceLines_of_uncut huncut (Nat.le_trans hm hk) more
  have htext (m : Nat) (hm : m ≤ k) : (Text.sourceLines text).take m = source.lines.take m := by
    rw [← hlines m hm [], List.append_nil]
  obtain ⟨hfailure, hassembler⟩ := assembleSource_of_undecodable hfault hpass
  refine ⟨k, ?_⟩
  constructor
  case within =>
    have hle := (huncut []).length_le
    rw [List.append_nil] at hle
    omega
  case terminated =>
    intro line hline
    rw [htext k (Nat.le_refl k)] at hline
    exact hterminated line (List.mem_of_mem_take hline)
  case uncut =>
    intro more
    rw [hlines k (Nat.le_refl k), htext k (Nat.le_refl k)]
  case linesRead =>
    rw [assembleSource_linesRead, hread, Nat.zero_add]
  case raises => simp [hfailure]
  case earlier =>
    intro m hm
    rw [htext m (Nat.le_of_lt hm), assembleLines_failure_eq_none_iff]
    exact hearlier m hm
  case faulty =>
    intro error herror
    rw [htext k (Nat.le_refl k)] at herror
    rw [hfailure, herror]
    rfl
  case unreadable =>
    intro hnone
    rw [htext k (Nat.le_refl k)] at hnone
    refine ⟨fault, ?_⟩
    rw [hfailure, hnone]
    rfl
  case incomplete => rw [hassembler]
  case session => rw [hassembler, htext k (Nat.le_refl k)]

/-- A file whose bytes are not those of a text is not assembled past the damage: the run takes whole
lines of the one text before it, fails at a faulty line among them or else as unreadable, and leaves
what these lines leave. -/
theorem damaged_file_stops (a : Assembler) (valid : a.config.Valid) (files : FileTree) (path : Text)
    (hpath : '\x00' ∉ path) (s : Scheme)
    (hencoding : Encoding.ofName a.config.encoding = .ok (.plain s)) (bytes : Bytes)
    (hread : files.read (Path.ofText path).toText = .ok bytes)
    (hbytes : ∀ text, s.encode text ≠ .ok bytes) :
    ∃ text, DamagedAfter s text bytes ∧ (∀ other, DamagedAfter s other bytes → other = text) ∧
      ∃ k, StopsAfter a (Path.ofText path).toText text k (a.assembleFile files path) := by
  obtain ⟨text, hdamage⟩ := (exists_damagedAfter_iff s bytes).mpr hbytes
  have hsource := readText_of_read valid (null_not_mem_toText hpath) hencoding hread
  obtain ⟨k, hstops⟩ := stopsAfter_of_breaksOff (breaksOff_ofBytes hdamage) a
    (Path.ofText path).toText
  refine ⟨text, hdamage, fun other => damagedAfter_unique hdamage, k, ?_⟩
  unfold Assembler.assembleFile
  simp only [hsource]
  exact ⟨hstops.within, hstops.terminated, hstops.uncut, hstops.linesRead, hstops.raises,
    hstops.earlier, hstops.faulty, hstops.unreadable, hstops.incomplete, hstops.session⟩

/-- A line with its ending and the start of another, which is cut off inside a surrogate pair. -/
theorem cut_off_pair_stops :
    let a : Assembler := { config := { encoding := "UTF-16LE" } }
    let bytes : Bytes := [0x61, 0x00, 0x3A, 0x00, 0x0D, 0x00, 0x0A, 0x00, 0x62, 0x00, 0x3D, 0xD8,
      0x00]
    let files := ({} : FileTree).addFile [['p']] bytes
    let s : Scheme := .utf16 .little
    a.config.Valid ∧ '\x00' ∉ ['p'] ∧ Encoding.ofName a.config.encoding = .ok (.plain s) ∧
      files.read (Path.ofText ['p']).toText = .ok bytes ∧ (∀ text, s.encode text ≠ .ok bytes) ∧
      ∃ text, DamagedAfter s text bytes ∧ (∀ other, DamagedAfter s other bytes → other = text) ∧
        ∃ k, StopsAfter a (Path.ofText ['p']).toText text k (a.assembleFile files ['p']) := by
  intro a bytes files s
  have valid : a.config.Valid := by decide +kernel
  have hpath : '\x00' ∉ ['p'] := by decide
  have hencoding : Encoding.ofName a.config.encoding = .ok (.plain s) := by decide +kernel
  have hread : files.read (Path.ofText ['p']).toText = .ok bytes := by decide +kernel
  have hbytes : ∀ text, s.encode text ≠ .ok bytes := by
    intro text htext
    have hdecode : s.decodeFrom true 0 bytes = .ok (text, []) := decodeFrom_encode htext
    have hfault : (s.decodeFrom true 0 bytes).toOption = none := by decide +kernel
    rw [hdecode] at hfault
    cases hfault
  exact ⟨valid, hpath, hencoding, hread, hbytes,
    damaged_file_stops a valid files ['p'] hpath s hencoding bytes hread hbytes⟩

end OnePass.Proofs
