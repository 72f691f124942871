import OnePass.Proofs.CodeRun

/-!
# Runs over renumbered lines

The numbers of the lines go into the symbols and the diagnostics and have no other effect. Where the
same code stands on lines with other numbers, each step of the pass does the same up to these
numbers, and so does the whole pass.
-/

namespace OnePass

def Location.renumber (place : Int → Int) (l : Location) : Location :=
  { l with line := place l.line }

def Symbol.renumber (place : Int → Int) (s : Symbol) : Symbol :=
  { s with line := place s.line, location := s.location.renumber place }

/-- The only number in a cause is that of the line with the first declaration of a label. -/
def Cause.renumber (place : Int → Int) : Cause → Cause
  | .duplicateLabel name first => .duplicateLabel name (first.map (Location.renumber place))
  | cause => cause

def Diagnostic.renumber (place : Int → Int) (d : Diagnostic) : Diagnostic :=
  { d with cause := d.cause.renumber place, location := d.location.map (Location.renumber place) }

namespace Proofs

/-- Two sessions that differ only in the line numbers of their symbols. -/
structure Renumbered (place : Int → Int) (s s' : Session) : Prop where
  config : s'.config = s.config
  mnemonics : s'.mnemonics = s.mnemonics
  filename : s'.filename = s.filename
  counter : s'.counter = s.counter
  symbols : s'.symbols.symbols = s.symbols.symbols.map (Symbol.renumber place)

/-- An outcome is another one up to line numbers. -/
structure SameOutcome (place : Int → Int) (o o' : Outcome) : Prop where
  session : Renumbered place o.session o'.session
  failure : o'.failure = o.failure.map (Diagnostic.renumber place)

section Step

variable {place : Int → Int} {s s' : Session}

lemma Renumbered.locate (h : Renumbered place s s') (line : Int) :
    s'.locate (place line) = (s.locate line).renumber place := by
  rw [Session.locate, h.filename]
  rfl

lemma Renumbered.find? (h : Renumbered place s s') (name : Text) :
    s'.symbols.find? name = (s.symbols.find? name).map (Symbol.renumber place) := by
  rw [SymbolTable.find?_eq, SymbolTable.find?_eq, h.symbols, List.find?_map]
  rfl

lemma labelSymbols_renumbered (h : Renumbered place s s') (line : Int) (label : Option Text) :
    labelSymbols s' (place line) label =
      (labelSymbols s line label).map (Symbol.renumber place) := by
  have haddress : s'.address = s.address := congrArg AddressCounter.value h.counter
  cases label with
  | none => rfl
  | some name =>
    simp only [labelSymbols, Option.toList_some, List.map_cons, List.map_nil, haddress, h.locate]
    rfl

lemma declareLabel_renumbered (h : Renumbered place s s') (label : Option Text) (line : Int) :
    SameOutcome place (s.declareLabel label line) (s'.declareLabel label (place line)) := by
  rcases declareLabel_cases s label line with ⟨name, first, hl, ht, he⟩ | ⟨t, hn, hd, he⟩
  · have ht' : s'.symbols.find? name = some (first.renumber place) := by
      rw [h.find?, ht, Option.map_some]
    rcases declareLabel_cases s' label (place line) with
      ⟨name', first', hl', htaken, he'⟩ | ⟨t', hn', -, -⟩
    · obtain rfl := Option.some.inj (hl.symm.trans hl')
      obtain rfl := Option.some.inj (ht'.symm.trans htaken)
      rw [he, he', h.locate]
      exact ⟨h, rfl⟩
    · cases (hn' name hl).symm.trans ht'
  · rcases declareLabel_cases s' label (place line) with
      ⟨name', first', hl', htaken, -⟩ | ⟨t', -, hd', he'⟩
    · rw [h.find?, hn name' hl'] at htaken
      cases htaken
    · rw [he, he']
      refine ⟨⟨?_, ?_, ?_, ?_, ?_⟩, rfl⟩
      · rw [hd'.config, hd.config, h.config]
      · rw [hd'.mnemonics, hd.mnemonics, h.mnemonics]
      · rw [hd'.filename, hd.filename, h.filename]
      · rw [hd'.counter, hd.counter, h.counter]
      · rw [hd'.symbols, hd.symbols, List.map_append, h.symbols, labelSymbols_renumbered h]

lemma dispatch_renumbered (h : Renumbered place s s') (hints : MnemonicTable) (st : Statement)
    (line : Int) (shown : Option Text) :
    SameOutcome place (s.dispatch hints st line shown)
      (s'.dispatch hints st (place line) shown) := by
  unfold Session.dispatch
  rw [h.mnemonics, h.counter, h.locate]
  cases st.mnemonic with
  | none =>
    cases st.operand with
    | none => exact ⟨h, rfl⟩
    | some operand => exact ⟨h, rfl⟩
  | some m =>
    dsimp only
    cases s.mnemonics.find? m with
    | none => exact ⟨h, rfl⟩
    | some handler => exact ⟨⟨h.config, rfl, h.filename, rfl, h.symbols⟩, rfl⟩

lemma resolve_renumbered (h : Renumbered place s s') (hints : MnemonicTable) (st : Statement)
    (line : Int) (shown : Option Text) :
    SameOutcome place (s.resolve hints st line shown) (s'.resolve hints st (place line) shown) := by
  have hlabel := declareLabel_renumbered h st.label line
  unfold Session.resolve
  dsimp only
  rw [hlabel.failure]
  cases hf : (s.declareLabel st.label line).failure with
  | some d => exact ⟨hlabel.session, hlabel.failure⟩
  | none =>
    have hdispatch := dispatch_renumbered hlabel.session hints st line shown
    exact ⟨hdispatch.session, hdispatch.failure⟩

lemma handleCode_renumbered (h : Renumbered place s s') (hints : MnemonicTable) (line : Int)
    (text : Text) :
    SameOutcome place (handleCode s hints line text) (handleCode s' hints (place line) text) := by
  unfold handleCode
  rw [h.config, h.locate]
  cases Statement.parse? s.config.labelMark text with
  | none => exact ⟨h, rfl⟩
  | some st => exact resolve_renumbered h hints st line (some text)

end Step

/-- A pass over code on other lines does the same up to line numbers. -/
theorem codePass_renumbered {place : Int → Int} {s s' : Session} (h : Renumbered place s s')
    (hints : MnemonicTable) (code : List (Int × Text)) :
    let p := codePass s hints code
    let p' := codePass s' hints (code.map (Prod.map place id))
    Renumbered place p.1 p'.1 ∧ p'.2 = p.2.map (Diagnostic.renumber place) := by
  induction code generalizing s s' with
  | nil => exact ⟨h, rfl⟩
  | cons entry code ih =>
    obtain ⟨line, text⟩ := entry
    have hstep := handleCode_renumbered h hints line text
    rw [List.map_cons, Prod.map_apply, id_eq, codePass, codePass, hstep.failure]
    cases (handleCode s hints line text).failure with
    | some d => exact ⟨hstep.session, rfl⟩
    | none => exact ih hstep.session

end Proofs

end OnePass
