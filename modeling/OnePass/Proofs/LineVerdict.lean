import OnePass.Proofs.LineStep

/-!
# Accepted and faulty lines

A session accepts a line just when four conditions hold, and the first of them that fails decides
the cause of the failure. An accepted line adds its label and advances the address by the size of
its mnemonic. A faulty one leaves the address alone and adds its label only if the fault is in the
mnemonic.
-/

namespace OnePass.Proofs

/-- The amount by which the mnemonic of a raw line advances the address. -/
def lineSize (c : Config) (t : MnemonicTable) (raw : Text) : Nat :=
  match (mnemonicOf c raw).bind t.find? with
  | some h => h.size
  | none => 0

/-- What makes a session accept a raw line. -/
structure Accepts (s : Session) (raw : Text) : Prop where
  short : raw.length < s.config.lineLimit
  named : (lineFields s.config raw).head? ≠ some s.config.labelMark
  new : IsNew s (labelOf s.config raw)
  known : ∀ m, mnemonicOf s.config raw = some m → s.mnemonics.find? m ≠ none

/-- A session after an accepted line. -/
structure Advanced (s : Session) (line : Int) (raw : Text) (s' : Session) : Prop where
  config : s'.config = s.config
  mnemonics : s'.mnemonics = s.mnemonics
  filename : s'.filename = s.filename
  address : s'.address = s.address + lineSize s.config s.mnemonics raw
  symbols : s'.symbols.symbols = s.symbols.symbols ++ labelSymbols s line (labelOf s.config raw)

/-- The cause of the failure of a raw line, given the mnemonics and the symbols declared before it:
the first condition that fails, in this order. -/
inductive LineFault (c : Config) (t : MnemonicTable) (declared : List Symbol) (raw : Text) :
    Cause → Prop
  | tooLong (long : c.lineLimit ≤ raw.length) :
      LineFault c t declared raw (.lineTooLong raw.length c.lineLimit)
  | nameless (short : raw.length < c.lineLimit)
      (first : (lineFields c raw).head? = some c.labelMark) :
      LineFault c t declared raw .emptyLabel
  | duplicate {name : Text} {first : Symbol} (short : raw.length < c.lineLimit)
      (named : (lineFields c raw).head? ≠ some c.labelMark) (label : labelOf c raw = some name)
      (earlier : first ∈ declared) (same : Text.foldCase first.name = Text.foldCase name)
      (only : ∀ other ∈ declared, Text.foldCase other.name = Text.foldCase name → other = first) :
      LineFault c t declared raw (.duplicateLabel name (some first.location))
  | unknown {m : Text} (short : raw.length < c.lineLimit)
      (named : (lineFields c raw).head? ≠ some c.labelMark)
      (new : ∀ name, labelOf c raw = some name →
        ∀ other ∈ declared, Text.foldCase other.name ≠ Text.foldCase name)
      (mnemonic : mnemonicOf c raw = some m)
      (missing : ∀ h ∈ t.handlers, Text.foldCase h.keyword ≠ Text.foldCase m) :
      LineFault c t declared raw (.unknownMnemonic m (t.similar m))

/-- The symbols that a faulty line leaves behind: its own label, if the fault is in the mnemonic. -/
def residue (c : Config) (filename : Text) (address line : Int) (raw : Text) :
    Cause → List Symbol
  | .unknownMnemonic _ _ =>
    (labelOf c raw).toList.map fun name => ⟨name, address, line, ⟨filename, line⟩⟩
  | _ => []

/-- A session after a faulty line, with the diagnostic that the line causes. -/
structure Stopped (s : Session) (line : Int) (raw : Text) (d : Diagnostic) (s' : Session) :
    Prop where
  location : d.location = some (s.locate line)
  fault : LineFault s.config s.mnemonics s.symbols.symbols raw d.cause
  address : s'.address = s.address
  symbols : s'.symbols.symbols = s.symbols.symbols ++
    residue s.config s.filename s.address line raw d.cause

lemma labelOf_eq {c : Config} {raw : Text} {st : Statement}
    (h : Statement.parse? c.labelMark (Line.strip c raw) = some st) : st.label = labelOf c raw :=
  (fields_of_parse? h).1

lemma mnemonicOf_eq {c : Config} {raw : Text} {st : Statement}
    (h : Statement.parse? c.labelMark (Line.strip c raw) = some st) :
    st.mnemonic = mnemonicOf c raw :=
  (fields_of_parse? h).2.1

/-- Each way of handling a line is either an acceptance or a fault. -/
theorem assembleLine_verdict (s : Session) (line : Int) (raw : Text)
    (hm : s.config.labelMark ≠ []) :
    let o := s.assembleLine s.mnemonics line raw
    (o.failure = none ∧ Accepts s raw ∧ Advanced s line raw o.session) ∨
      ∃ d, o.failure = some d ∧ ¬Accepts s raw ∧ Stopped s line raw d o.session := by
  have hc := assembleLine_cases s s.mnemonics line raw
  generalize s.assembleLine s.mnemonics line raw = o at hc
  cases hc with
  | tooLong long =>
    refine Or.inr ⟨_, rfl, fun h => ?_, rfl, .tooLong long, rfl, ?_⟩
    · exact absurd h.short (Int.not_lt.mpr long)
    · simp [residue]
  | refused short parsed =>
    have hf := (parse?_eq_none_iff hm _).mp parsed
    refine Or.inr ⟨_, rfl, fun h => h.named hf, rfl, .nameless short hf, rfl, ?_⟩
    simp [residue, Cause.emptyLabel]
  | @resolved st o short parsed resolution =>
    have named : (lineFields s.config raw).head? ≠ some s.config.labelMark := by
      intro h
      have hn := (parse?_eq_none_iff hm _).mpr h
      exact absurd (hn.symm.trans parsed) (by simp)
    have hlabel := labelOf_eq parsed
    have hmnemonic := mnemonicOf_eq parsed
    cases resolution with
    | @duplicate name first label taken =>
      rw [hlabel] at label
      obtain ⟨earlier, same⟩ := (symbol_find?_eq_some_iff _ _ _).mp taken
      refine Or.inr ⟨_, rfl, fun h => ?_, rfl, .duplicate short named label earlier same ?_, rfl, ?_⟩
      · exact absurd ((h.new name label).symm.trans taken) (by simp)
      · intro other ho he
        have hf := (symbol_find?_eq_some_iff _ _ _).mpr ⟨ho, he⟩
        exact Option.some.inj (hf.symm.trans taken)
      · simp [residue]
    | stray new declared mnemonic operand =>
      have hnone := (fields_of_parse? parsed).2.2 mnemonic
      exact absurd (hnone.symm.trans operand) (by simp)
    | @unknown s' m new declared mnemonic missing =>
      rw [hmnemonic] at mnemonic
      rw [hlabel] at new declared
      refine Or.inr ⟨_, rfl, fun h => h.known m mnemonic missing, rfl,
        .unknown short named ?_ mnemonic ((mnemonic_find?_eq_none_iff _ _).mp missing), ?_, ?_⟩
      · intro name hn
        exact (symbol_find?_eq_none_iff _ _).mp (new name hn)
      · exact declared.address
      · exact declared.symbols
    | @dispatched s' m h new declared mnemonic found =>
      rw [hmnemonic] at mnemonic
      rw [hlabel] at new declared
      refine Or.inl ⟨rfl, ⟨short, named, new, ?_⟩, declared.config, declared.mnemonics,
        declared.filename, ?_, declared.symbols⟩
      · intro m' hm'
        rw [Option.some.inj (hm'.symm.trans mnemonic), found]
        simp
      · simp only [lineSize, mnemonic, Option.bind_some, found, ← declared.address]
        rfl
    | silent new declared mnemonic operand =>
      rw [hmnemonic] at mnemonic
      rw [hlabel] at new declared
      refine Or.inl ⟨rfl, ⟨short, named, new, ?_⟩, declared.config, declared.mnemonics,
        declared.filename, ?_, declared.symbols⟩
      · intro m' hm'
        exact absurd (hm'.symm.trans mnemonic) (by simp)
      · simp only [lineSize, mnemonic, Option.bind_none, Nat.add_zero]
        exact declared.address

end OnePass.Proofs
