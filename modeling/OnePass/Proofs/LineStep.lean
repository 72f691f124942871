import OnePass.Proofs.LineFields
import OnePass.Proofs.TableLookup
import OnePass.Session

/-!
# What one line does to a session

A line is resolved in one of five ways, and a raw line is either refused before that or resolved by
its fields. Each way is stated once, with all that the session, the events and the failure are
afterwards. Whether a line is accepted, and what it leaves behind, is read off these cases.
-/

namespace OnePass.Proofs

/-- The symbols that the label of a line adds to a session. -/
def labelSymbols (s : Session) (line : Int) (label : Option Text) : List Symbol :=
  label.toList.map fun name => ⟨name, s.address, line, s.locate line⟩

/-- The events that the label of a line causes. -/
def labelEvents (s : Session) (line : Int) (label : Option Text) : List Event :=
  label.toList.map fun name => .labelDeclared name s.address line

/-- A session after the label of a line has been declared, with all else as before. -/
structure Declared (s : Session) (line : Int) (label : Option Text) (s' : Session) : Prop where
  config : s'.config = s.config
  mnemonics : s'.mnemonics = s.mnemonics
  filename : s'.filename = s.filename
  counter : s'.counter = s.counter
  symbols : s'.symbols.symbols = s.symbols.symbols ++ labelSymbols s line label

lemma Declared.address {s s' : Session} {line : Int} {label : Option Text}
    (h : Declared s line label s') : s'.address = s.address :=
  congrArg AddressCounter.value h.counter

lemma declared_unlabelled (s : Session) (line : Int) : Declared s line none s :=
  ⟨rfl, rfl, rfl, rfl, (List.append_nil _).symm⟩

/-- No symbol of a session has the name of a label. -/
def IsNew (s : Session) (label : Option Text) : Prop :=
  ∀ name, label = some name → s.symbols.find? name = none

lemma declareLabel_cases (s : Session) (label : Option Text) (line : Int) :
    (∃ name first, label = some name ∧ s.symbols.find? name = some first ∧
      s.declareLabel label line =
        { session := s
          failure := some ⟨.duplicateLabel name (some first.location), some (s.locate line), none⟩ }) ∨
    ∃ s', IsNew s label ∧ Declared s line label s' ∧
      s.declareLabel label line = { session := s', events := labelEvents s line label } := by
  cases label with
  | none =>
    exact Or.inr ⟨s, by simp [IsNew], declared_unlabelled s line, rfl⟩
  | some name =>
    have hd : (⟨name, line, s.address, some (s.locate line)⟩ : Declaration).symbol =
        ⟨name, s.address, line, s.locate line⟩ := rfl
    cases hf : s.symbols.find? name with
    | some first =>
      refine Or.inl ⟨name, first, rfl, hf, ?_⟩
      have hi := insert_of_taken (d := ⟨name, line, s.address, some (s.locate line)⟩) hf
      simp only [Session.declareLabel, Session.declare, hi, hd]
    | none =>
      obtain ⟨t, hi, ht⟩ := insert_of_new (d := ⟨name, line, s.address, some (s.locate line)⟩) hf
      rw [hd] at ht
      refine Or.inr ⟨{ s with symbols := t }, ?_, ⟨rfl, rfl, rfl, rfl, ?_⟩, ?_⟩
      · rintro _ ⟨⟩
        exact hf
      · simpa [labelSymbols] using ht
      · simp [Session.declareLabel, Session.declare, hi, labelEvents]

/-- The ways in which the fields of a line are resolved, with the outcome of each. -/
inductive Resolution (s : Session) (hints : MnemonicTable) (st : Statement) (line : Int)
    (shown : Option Text) : Outcome → Prop
  | duplicate {name : Text} {first : Symbol} (label : st.label = some name)
      (taken : s.symbols.find? name = some first) :
      Resolution s hints st line shown
        { session := s
          failure := some ⟨.duplicateLabel name (some first.location), some (s.locate line), none⟩ }
  | stray {s' : Session} {operand : Text} (new : IsNew s st.label)
      (declared : Declared s line st.label s') (mnemonic : st.mnemonic = none)
      (operand_eq : st.operand = some operand) :
      Resolution s hints st line shown
        { session := s'
          events := labelEvents s line st.label
          failure := some ⟨.strayOperand operand, some (s.locate line), shown⟩ }
  | unknown {s' : Session} {m : Text} (new : IsNew s st.label)
      (declared : Declared s line st.label s') (mnemonic : st.mnemonic = some m)
      (missing : s.mnemonics.find? m = none) :
      Resolution s hints st line shown
        { session := s'
          events := labelEvents s line st.label
          failure := some ⟨.unknownMnemonic m (hints.similar m), some (s.locate line), shown⟩ }
  | dispatched {s' : Session} {m : Text} {h : Handler} (new : IsNew s st.label)
      (declared : Declared s line st.label s') (mnemonic : st.mnemonic = some m)
      (found : s.mnemonics.find? m = some h) :
      Resolution s hints st line shown
        { session := { s' with counter := s'.counter.skip h.size }
          events := labelEvents s line st.label ++ [.dispatched h.keyword line st.operand h.size] }
  | silent {s' : Session} (new : IsNew s st.label) (declared : Declared s line st.label s')
      (mnemonic : st.mnemonic = none) (operand : st.operand = none) :
      Resolution s hints st line shown
        { session := s', events := labelEvents s line st.label }

theorem resolve_cases (s : Session) (hints : MnemonicTable) (st : Statement) (line : Int)
    (shown : Option Text) :
    Resolution s hints st line shown (s.resolve hints st line shown) := by
  unfold Session.resolve
  rcases declareLabel_cases s st.label line with ⟨name, first, hl, ht, he⟩ | ⟨s', hn, hd, he⟩
  · rw [he]
    exact .duplicate hl ht
  · rw [he]
    have hloc : s'.locate line = s.locate line := by rw [Session.locate, Session.locate, hd.filename]
    cases hm : st.mnemonic with
    | none =>
      cases ho : st.operand with
      | none => simpa [Session.dispatch, hm, ho] using Resolution.silent hn hd hm ho
      | some operand =>
        simpa [Session.dispatch, hm, ho, hloc] using Resolution.stray hn hd hm ho
    | some m =>
      cases hf : s.mnemonics.find? m with
      | none =>
        simpa [Session.dispatch, hm, hd.mnemonics, hf, hloc] using Resolution.unknown hn hd hm hf
      | some h =>
        simpa [Session.dispatch, hm, hd.mnemonics, hf] using Resolution.dispatched hn hd hm hf

lemma settings_of_resolution {s : Session} {hints : MnemonicTable} {st : Statement} {line : Int}
    {shown : Option Text} {o : Outcome} (h : Resolution s hints st line shown o) :
    o.session.config = s.config ∧ o.session.mnemonics = s.mnemonics ∧
      o.session.filename = s.filename := by
  cases h with
  | duplicate label taken => exact ⟨rfl, rfl, rfl⟩
  | stray new declared mnemonic operand =>
    exact ⟨declared.config, declared.mnemonics, declared.filename⟩
  | unknown new declared mnemonic missing =>
    exact ⟨declared.config, declared.mnemonics, declared.filename⟩
  | dispatched new declared mnemonic found =>
    exact ⟨declared.config, declared.mnemonics, declared.filename⟩
  | silent new declared mnemonic operand =>
    exact ⟨declared.config, declared.mnemonics, declared.filename⟩

/-- The events that the scan of a raw line causes. -/
def scanEvents (c : Config) (raw : Text) : List Event :=
  if Line.isUnterminated c raw then [.unterminatedSpan raw] else []

/-- The ways in which a raw line is handled, with the outcome of each. -/
inductive LineOutcome (s : Session) (hints : MnemonicTable) (line : Int) (raw : Text) :
    Outcome → Prop
  | tooLong (long : s.config.lineLimit ≤ raw.length) :
      LineOutcome s hints line raw
        { session := s
          failure :=
            some ⟨.lineTooLong raw.length s.config.lineLimit, some (s.locate line), none⟩ }
  | refused (short : raw.length < s.config.lineLimit)
      (parsed : Statement.parse? s.config.labelMark (Line.strip s.config raw) = none) :
      LineOutcome s hints line raw
        { session := s
          events := scanEvents s.config raw
          failure :=
            some ⟨.emptyLabel, some (s.locate line), some (Line.strip s.config raw)⟩ }
  | resolved {st : Statement} {o : Outcome} (short : raw.length < s.config.lineLimit)
      (parsed : Statement.parse? s.config.labelMark (Line.strip s.config raw) = some st)
      (resolution : Resolution s hints st line (some (Line.strip s.config raw)) o) :
      LineOutcome s hints line raw { o with events := scanEvents s.config raw ++ o.events }

/-- A statement without fields changes nothing, so that it need not be set apart. -/
lemma resolve_of_isBlank {st : Statement} (h : st.isBlank = true) (s : Session)
    (hints : MnemonicTable) (line : Int) (shown : Option Text) :
    s.resolve hints st line shown = { session := s } := by
  obtain ⟨label, mnemonic, operand⟩ := st
  simp only [Statement.isBlank, Bool.and_eq_true, Option.isNone_iff_eq_none] at h
  obtain ⟨⟨rfl, rfl⟩, rfl⟩ := h
  rfl

theorem assembleLine_cases (s : Session) (hints : MnemonicTable) (line : Int) (raw : Text) :
    LineOutcome s hints line raw (s.assembleLine hints line raw) := by
  unfold Session.assembleLine Line.normalize
  by_cases hl : s.config.lineLimit ≤ raw.length
  · rw [if_pos hl]
    exact .tooLong hl
  · rw [if_neg hl]
    have hs : raw.length < s.config.lineLimit := Int.not_le.mp hl
    dsimp only
    unfold Statement.parse
    cases hp : Statement.parse? s.config.labelMark (Line.strip s.config raw) with
    | none => exact .refused hs hp
    | some st =>
      have h := LineOutcome.resolved hs hp (resolve_cases s hints st line _)
      by_cases hb : st.isBlank = true
      · rw [resolve_of_isBlank hb] at h
        simpa [hb, scanEvents] using h
      · simpa [hb, scanEvents] using h

end OnePass.Proofs
