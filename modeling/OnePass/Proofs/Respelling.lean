import Mathlib.Data.List.Forall2
import OnePass.Proofs.CallSequence

/-!
# Calls in another spelling

Labels and mnemonics count up to case, and of an operand it only counts whether there is one. Two
sequences of calls that differ in nothing else go in step: each call succeeds or fails with its
counterpart, and the sessions stay the same up to the spelling of the names declared.
-/

namespace OnePass.Proofs

/-- Two calls with the same fields on the same line, up to the case of the label and the mnemonic,
the text of the operand and the text shown. -/
structure Respelled (call call' : Call) : Prop where
  hints : call'.hints = call.hints
  line : call'.line = call.line
  label : call'.statement.label.map Text.foldCase = call.statement.label.map Text.foldCase
  mnemonic : call'.statement.mnemonic.map Text.foldCase = call.statement.mnemonic.map Text.foldCase
  operand : call'.statement.operand.isSome = call.statement.operand.isSome

/-- Two symbols that differ at most in the case of their names. -/
structure SameSymbol (r r' : Symbol) : Prop where
  name : Text.foldCase r'.name = Text.foldCase r.name
  offset : r'.offset = r.offset
  line : r'.line = r.line
  location : r'.location = r.location

/-- Two sessions that differ at most in their settings and in the case of the names declared. -/
structure SameState (s s' : Session) : Prop where
  mnemonics : s'.mnemonics = s.mnemonics
  filename : s'.filename = s.filename
  address : s'.address = s.address
  symbols : List.Forall₂ SameSymbol s.symbols.symbols s'.symbols.symbols

/-- Two causes of one kind, with the same hints and the same place of the first declaration. -/
inductive SameCause : Cause → Cause → Prop
  | duplicate {name name' : Text} (same : Text.foldCase name' = Text.foldCase name)
      (first : Option Location) :
      SameCause (.duplicateLabel name first) (.duplicateLabel name' first)
  | unknown {m m' : Text} (same : Text.foldCase m' = Text.foldCase m) (similar : List Text) :
      SameCause (.unknownMnemonic m similar) (.unknownMnemonic m' similar)
  | stray (operand operand' : Text) : SameCause (.strayOperand operand) (.strayOperand operand')

structure SameFault (d d' : Diagnostic) : Prop where
  cause : SameCause d.cause d'.cause
  location : d'.location = d.location

/-- Two outcomes that no one can tell apart but by spelling: both calls succeed or both fail alike,
the sessions agree, and so do all lookups in them. -/
structure InStep (o o' : Outcome) : Prop where
  failure : Option.Rel SameFault o.failure o'.failure
  state : SameState o.session o'.session
  lookup : ∀ name name', Text.foldCase name' = Text.foldCase name →
    Option.Rel SameSymbol (o.session.symbols.find? name) (o'.session.symbols.find? name')

/-- The outcomes of some calls, each of them made on the session that the one before it leaves,
whether that one fails or not. -/
def outcomes (s : Session) : List Call → List Outcome
  | [] => []
  | call :: rest => call.outcome s :: outcomes (call.outcome s).session rest

lemma find?_of_sameSymbols {l l' : List Symbol} (h : List.Forall₂ SameSymbol l l') (key : Text) :
    Option.Rel SameSymbol (l.find? fun r => r.key = key) (l'.find? fun r => r.key = key) := by
  induction h with
  | nil => exact .none
  | @cons r r' l l' same _ ih =>
    have hkey : r'.key = r.key := same.name
    rw [List.find?_cons, List.find?_cons, hkey]
    cases decide (r.key = key) with
    | true => exact .some same
    | false => exact ih

section Step

variable {s s' : Session}

lemma SameState.locate (h : SameState s s') (line : Int) : s'.locate line = s.locate line := by
  rw [Session.locate, Session.locate, h.filename]

lemma SameState.find? (h : SameState s s') {name name' : Text}
    (same : Text.foldCase name' = Text.foldCase name) :
    Option.Rel SameSymbol (s.symbols.find? name) (s'.symbols.find? name') := by
  rw [SymbolTable.find?_eq, SymbolTable.find?_eq, same]
  exact find?_of_sameSymbols h.symbols _

lemma inStep_of_sameState {o o' : Outcome} (failure : Option.Rel SameFault o.failure o'.failure)
    (state : SameState o.session o'.session) : InStep o o' :=
  ⟨failure, state, fun _ _ same => state.find? same⟩

lemma sameState_of_declared {t t' : Session} {line : Int} {label label' : Option Text}
    (h : SameState s s') (declared : Declared s line label t)
    (declared' : Declared s' line label' t')
    (same : label'.map Text.foldCase = label.map Text.foldCase) : SameState t t' := by
  refine ⟨?_, ?_, ?_, ?_⟩
  · rw [declared'.mnemonics, declared.mnemonics, h.mnemonics]
  · rw [declared'.filename, declared.filename, h.filename]
  · rw [declared'.address, declared.address, h.address]
  · rw [declared'.symbols, declared.symbols]
    apply List.rel_append h.symbols
    cases label with
    | none =>
      obtain rfl := Option.map_eq_none_iff.mp same
      exact .nil
    | some name =>
      obtain ⟨name', rfl, hname⟩ := Option.map_eq_some_iff.mp same
      exact .cons ⟨hname, congrArg Int.ofNat h.address, rfl, h.locate line⟩ .nil

lemma declareLabel_inStep (h : SameState s s') {label label' : Option Text} (line : Int)
    (same : label'.map Text.foldCase = label.map Text.foldCase) :
    InStep (s.declareLabel label line) (s'.declareLabel label' line) := by
  rcases declareLabel_cases s label line with ⟨name, first, hl, ht, he⟩ | ⟨t, hn, hd, he⟩
  · obtain ⟨name', rfl, hname⟩ := Option.map_eq_some_iff.mp (same.trans (congrArg _ hl))
    have hfind := h.find? hname
    rcases declareLabel_cases s' (some name') line with
      ⟨_, first', ⟨⟩, ht', he'⟩ | ⟨t', hn', -, -⟩
    · rw [ht, ht'] at hfind
      cases hfind with
      | some hfirst =>
        rw [he, he']
        refine inStep_of_sameState (.some ⟨?_, congrArg some (h.locate line)⟩) h
        rw [hfirst.location]
        exact .duplicate hname _
    · rw [ht, hn' name' rfl] at hfind
      cases hfind
  · rcases declareLabel_cases s' label' line with ⟨name', first', rfl, ht', -⟩ | ⟨t', -, hd', he'⟩
    · obtain ⟨name, hl, hname⟩ := Option.map_eq_some_iff.mp same.symm
      have hfind := h.find? hname.symm
      rw [hn name hl, ht'] at hfind
      cases hfind
    · rw [he, he']
      exact inStep_of_sameState .none (sameState_of_declared h hd hd' same)

lemma similar_of_same_case (t : MnemonicTable) {m m' : Text}
    (same : Text.foldCase m' = Text.foldCase m) : t.similar m' = t.similar m := by
  have hsimilar : MnemonicTable.isSimilar m' = MnemonicTable.isSimilar m := by
    funext keyword
    unfold MnemonicTable.isSimilar
    rw [same]
  rw [MnemonicTable.similar, hsimilar, MnemonicTable.similar]

lemma dispatch_inStep (h : SameState s s') {call call' : Call} (respelled : Respelled call call') :
    InStep (s.dispatch call.hints call.statement call.line call.shown)
      (s'.dispatch call'.hints call'.statement call'.line call'.shown) := by
  have hlocation := congrArg some (h.locate call.line)
  have hoperand := respelled.operand
  unfold Session.dispatch
  rw [respelled.hints, respelled.line, h.mnemonics]
  cases hm : call.statement.mnemonic with
  | none =>
    have hm' := respelled.mnemonic
    rw [hm] at hm'
    rw [Option.map_eq_none_iff.mp hm']
    cases ho : call.statement.operand with
    | none =>
      rw [ho] at hoperand
      rw [Option.not_isSome_iff_eq_none.mp (Bool.eq_false_iff.mp hoperand)]
      exact inStep_of_sameState .none h
    | some operand =>
      rw [ho] at hoperand
      obtain ⟨operand', ho'⟩ := Option.isSome_iff_exists.mp hoperand
      rw [ho']
      exact inStep_of_sameState (.some ⟨.stray _ _, hlocation⟩) h
  | some m =>
    have hm' := respelled.mnemonic
    rw [hm] at hm'
    obtain ⟨m', hm', hname⟩ := Option.map_eq_some_iff.mp hm'
    have hfind : s.mnemonics.find? m' = s.mnemonics.find? m := by
      rw [MnemonicTable.find?, hname, MnemonicTable.find?]
    rw [hm']
    dsimp only
    rw [hfind]
    cases s.mnemonics.find? m with
    | none =>
      refine inStep_of_sameState (.some ⟨?_, hlocation⟩) h
      rw [similar_of_same_case _ hname]
      exact .unknown hname _
    | some handler =>
      have haddress : s'.address + handler.size = s.address + handler.size := by rw [h.address]
      exact inStep_of_sameState .none ⟨rfl, h.filename, haddress, h.symbols⟩

theorem outcome_inStep (h : SameState s s') {call call' : Call} (respelled : Respelled call call') :
    InStep (call.outcome s) (call'.outcome s') := by
  have hlabel := declareLabel_inStep h call.line respelled.label
  have hfailure := hlabel.failure
  unfold Call.outcome Session.resolve
  rw [respelled.line]
  dsimp only
  cases hf : (s.declareLabel call.statement.label call.line).failure with
  | none =>
    rw [hf] at hfailure
    cases hf' : (s'.declareLabel call'.statement.label call.line).failure with
    | none =>
      have hdispatch := dispatch_inStep hlabel.state respelled
      rw [respelled.line] at hdispatch
      exact inStep_of_sameState hdispatch.failure hdispatch.state
    | some d' =>
      rw [hf'] at hfailure
      cases hfailure
  | some d =>
    rw [hf] at hfailure
    cases hf' : (s'.declareLabel call'.statement.label call.line).failure with
    | none =>
      rw [hf'] at hfailure
      cases hfailure
    | some d' => exact hlabel

end Step

/-- Sequences of calls that differ only in spelling go in step from sessions that agree. -/
lemma outcomes_inStep {s s' : Session} (h : SameState s s') {calls calls' : List Call}
    (respelled : List.Forall₂ Respelled calls calls') :
    List.Forall₂ InStep (outcomes s calls) (outcomes s' calls') := by
  induction respelled generalizing s s' with
  | nil => exact .nil
  | cons first _ ih =>
    have hstep := outcome_inStep h first
    exact .cons hstep (ih hstep.state)

/-- Case and operand text have no influence. Whatever two sequences of calls have in common but for
these, they go in step from sessions without symbols that share mnemonics, file name and address,
and whose calls take their hints from the same table. -/
theorem respelling_unseen {s s' : Session} (mnemonics : s'.mnemonics = s.mnemonics)
    (filename : s'.filename = s.filename) (address : s'.address = s.address)
    (empty : s.symbols.symbols = []) (empty' : s'.symbols.symbols = []) {calls calls' : List Call}
    (respelled : List.Forall₂ Respelled calls calls') :
    List.Forall₂ InStep (outcomes s calls) (outcomes s' calls') := by
  refine outcomes_inStep ⟨mnemonics, filename, address, ?_⟩ respelled
  rw [empty, empty']
  exact .nil

/-- A label that gets longer when it is folded, its second declaration, a mnemonic with a hint and
an operand alone. The three last calls fail, in either spelling. -/
theorem four_calls_in_step :
    let call := fun (label mnemonic operand : Option Text) (line : Int) =>
      (⟨MnemonicTable.standard, ⟨label, mnemonic, operand⟩, line, none⟩ : Call)
    let calls := [call (some ['ß']) (some ['D', 'b']) (some ['1']) 1,
      call (some ['S', 's']) none none 2, call (some ['é']) (some ['m', 'v', 'o']) none 3,
      call none none (some ['x']) 3]
    let calls' := [call (some ['S', 'S']) (some ['d', 'B']) (some []) 1,
      call (some ['ẞ']) none none 2, call (some ['É']) (some ['M', 'v', 'O']) none 3,
      call none none (some ['y', 'z']) 3]
    let s : Session := {}
    let s' : Session := { config := { labelMark := "::" } }
    s'.mnemonics = s.mnemonics ∧ s'.filename = s.filename ∧ s'.address = s.address ∧
      s.symbols.symbols = [] ∧ s'.symbols.symbols = [] ∧ List.Forall₂ Respelled calls calls' ∧
      List.Forall₂ InStep (outcomes s calls) (outcomes s' calls') ∧
      (outcomes s calls).map (fun o => o.failure.isSome) = [false, true, true, true] := by
  intro call calls calls' s s'
  have respelled : List.Forall₂ Respelled calls calls' :=
    .cons ⟨rfl, rfl, by decide +kernel, by decide +kernel, rfl⟩
      (.cons ⟨rfl, rfl, by decide +kernel, rfl, rfl⟩
        (.cons ⟨rfl, rfl, by decide +kernel, by decide +kernel, rfl⟩
          (.cons ⟨rfl, rfl, rfl, rfl, rfl⟩ .nil)))
  have mnemonics : s'.mnemonics = s.mnemonics := rfl
  exact ⟨mnemonics, rfl, rfl, rfl, rfl, respelled,
    respelling_unseen mnemonics rfl rfl rfl rfl respelled, by decide +kernel⟩

end OnePass.Proofs
