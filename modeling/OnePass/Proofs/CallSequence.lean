import OnePass.Proofs.LineStep

/-!
# Sequences of calls

The resolve step can be called on a session again and again, with any fields and any line numbers,
going on after each failure. Every call adds at most its own label, at the address there is, and
moves the address by the size of the handler it dispatches. From this one step it follows for all
sequences that the address accounts for the handlers dispatched, that the symbols stand in the
order of their addresses, and that none of them is ever lost.
-/

namespace OnePass.Proofs

/-- A call of the resolve step: the fields of a line, its number, the text shown in a diagnostic and
the mnemonics that hints come from. -/
structure Call where
  hints : MnemonicTable
  statement : Statement
  line : Int
  shown : Option Text

/-- What becomes of a session by a call. -/
def Call.outcome (call : Call) (s : Session) : Outcome :=
  s.resolve call.hints call.statement call.line call.shown

/-- The handler that a call dispatches: the one for its mnemonic, unless the call fails. -/
def Call.handler? (call : Call) (s : Session) : Option Handler :=
  match (call.outcome s).failure with
  | some _ => none
  | none => call.statement.mnemonic.bind s.mnemonics.find?

/-- The size of the handler that a call dispatches. -/
def Call.size (call : Call) (s : Session) : Nat := (call.handler? s).elim 0 Handler.size

/-- The session after some calls, whatever became of each of them. -/
def resolveAll (s : Session) : List Call → Session
  | [] => s
  | call :: rest => resolveAll (call.outcome s).session rest

/-- The sum of the sizes of the handlers that some calls dispatch. -/
def dispatchedSize (s : Session) : List Call → Nat
  | [] => 0
  | call :: rest => call.size s + dispatchedSize (call.outcome s).session rest

/-- A call has added its label, if it has one, to the symbols, at the address of the session. -/
def AddsLabel (s : Session) (call : Call) (s' : Session) : Prop :=
  s'.symbols.symbols = s.symbols.symbols ++ labelSymbols s call.line call.statement.label

/-- The session that a failed call leaves, by the cause of the failure. -/
inductive Refused (s : Session) (call : Call) (s' : Session) : Cause → Prop
  | duplicate (name : Text) (first : Option Location) (unchanged : s' = s) :
      Refused s call s' (.duplicateLabel name first)
  | unknown (m : Text) (similar : List Text) (address : s'.address = s.address)
      (labelled : AddsLabel s call s') : Refused s call s' (.unknownMnemonic m similar)
  | stray (operand : Text) (address : s'.address = s.address) (labelled : AddsLabel s call s') :
      Refused s call s' (.strayOperand operand)

/-- The session that a call without failure leaves. -/
structure Resolved (s : Session) (call : Call) (s' : Session) : Prop where
  labelled : AddsLabel s call s'
  dispatched : ∀ m, call.statement.mnemonic = some m →
    ∃ h ∈ s.mnemonics.handlers, Text.foldCase h.keyword = Text.foldCase m ∧
      s'.address = s.address + h.size
  silent : call.statement.mnemonic = none → s'.address = s.address

/-- What holds of a session that has started at an address and has dispatched handlers of a given
total size since. -/
structure Accounted (start : Int) (size : Nat) (s : Session) : Prop where
  address : (s.address : Int) = start + size
  distinct : (s.symbols.symbols.map fun r => Text.foldCase r.name).Nodup
  ordered : s.symbols.symbols.Pairwise fun r r' => r.offset ≤ r'.offset
  bounded : ∀ r ∈ s.symbols.symbols, start ≤ r.offset ∧ r.offset ≤ s.address

/-- What holds of a session after some calls, of the next call and of all later ones. -/
structure Governed (start : Int) (s : Session) (calls : List Call) : Prop where
  accounted : Accounted start (dispatchedSize s calls) (resolveAll s calls)
  config : (resolveAll s calls).config = s.config
  mnemonics : (resolveAll s calls).mnemonics = s.mnemonics
  filename : (resolveAll s calls).filename = s.filename
  refused : ∀ (call : Call) d, (call.outcome (resolveAll s calls)).failure = some d →
    Refused (resolveAll s calls) call (call.outcome (resolveAll s calls)).session d.cause
  resolved : ∀ call : Call, (call.outcome (resolveAll s calls)).failure = none →
    Resolved (resolveAll s calls) call (call.outcome (resolveAll s calls)).session
  grows : ∀ later,
    (resolveAll s calls).symbols.symbols <+: (resolveAll s (calls ++ later)).symbols.symbols

lemma resolveAll_append (s : Session) (calls later : List Call) :
    resolveAll s (calls ++ later) = resolveAll (resolveAll s calls) later := by
  induction calls generalizing s with
  | nil => rfl
  | cons call calls ih => exact ih (call.outcome s).session

section Step

variable (s : Session) (call : Call)

theorem refused_of_failure {d : Diagnostic} (h : (call.outcome s).failure = some d) :
    Refused s call (call.outcome s).session d.cause := by
  have hc := resolve_cases s call.hints call.statement call.line call.shown
  unfold Call.outcome at h ⊢
  generalize s.resolve call.hints call.statement call.line call.shown = o at h hc
  cases hc with
  | duplicate label taken =>
    obtain rfl := Option.some.inj h
    exact .duplicate _ _ rfl
  | stray new declared mnemonic operand =>
    obtain rfl := Option.some.inj h
    exact .stray _ declared.address declared.symbols
  | unknown new declared mnemonic missing =>
    obtain rfl := Option.some.inj h
    exact .unknown _ _ declared.address declared.symbols
  | dispatched new declared mnemonic found => cases h
  | silent new declared mnemonic operand => cases h

theorem resolved_of_no_failure (h : (call.outcome s).failure = none) :
    Resolved s call (call.outcome s).session := by
  have hc := resolve_cases s call.hints call.statement call.line call.shown
  unfold Call.outcome at h ⊢
  generalize s.resolve call.hints call.statement call.line call.shown = o at h hc
  cases hc with
  | duplicate label taken => cases h
  | stray new declared mnemonic operand => cases h
  | unknown new declared mnemonic missing => cases h
  | @dispatched s' m handler new declared mnemonic found =>
    obtain ⟨hmem, hkey⟩ := (mnemonic_find?_eq_some_iff _ _ _).mp found
    refine ⟨declared.symbols, fun m' hm => ⟨handler, hmem, ?_, ?_⟩, fun hm => ?_⟩
    · rw [hkey, Option.some.inj (hm.symm.trans mnemonic)]
    · rw [← declared.address]
      rfl
    · cases hm.symm.trans mnemonic
  | silent new declared mnemonic operand =>
    refine ⟨declared.symbols, fun m hm => ?_, fun _ => declared.address⟩
    cases hm.symm.trans mnemonic

lemma settings_outcome :
    (call.outcome s).session.config = s.config ∧
      (call.outcome s).session.mnemonics = s.mnemonics ∧
      (call.outcome s).session.filename = s.filename :=
  settings_of_resolution (resolve_cases s call.hints call.statement call.line call.shown)

/-- A call moves the address by what it dispatches, whether it fails or not. -/
theorem address_outcome : (call.outcome s).session.address = s.address + call.size s := by
  unfold Call.size Call.handler?
  cases h : (call.outcome s).failure with
  | some d =>
    have hr := refused_of_failure s call h
    generalize d.cause = cause at hr
    cases hr with
    | duplicate name first unchanged =>
      rw [unchanged]
      rfl
    | unknown m similar address labelled => exact address
    | stray operand address labelled => exact address
  | none =>
    have hr := resolved_of_no_failure s call h
    cases hm : call.statement.mnemonic with
    | none => exact hr.silent hm
    | some m =>
      obtain ⟨handler, hmem, hkey, ha⟩ := hr.dispatched m hm
      have hfind := (mnemonic_find?_eq_some_iff s.mnemonics m handler).mpr ⟨hmem, hkey⟩
      simpa only [Option.bind_some, hfind, Option.elim_some] using ha

/-- A call adds at most its label, whether it fails or not. -/
theorem symbols_outcome :
    (call.outcome s).session.symbols.symbols = s.symbols.symbols ∨
      AddsLabel s call (call.outcome s).session := by
  cases h : (call.outcome s).failure with
  | some d =>
    have hr := refused_of_failure s call h
    generalize d.cause = cause at hr
    cases hr with
    | duplicate name first unchanged => exact Or.inl (by rw [unchanged])
    | unknown m similar address labelled => exact Or.inr labelled
    | stray operand address labelled => exact Or.inr labelled
  | none => exact Or.inr (resolved_of_no_failure s call h).labelled

variable {s call}

theorem accounted_outcome {start : Int} {size : Nat} (h : Accounted start size s) :
    Accounted start (size + call.size s) (call.outcome s).session := by
  have hle : (s.address : Int) ≤ (call.outcome s).session.address := by
    rw [address_outcome]
    push_cast
    omega
  refine ⟨?_, (call.outcome s).session.symbols.distinct, ?_, ?_⟩
  · rw [address_outcome]
    push_cast
    rw [h.address, Int.add_assoc]
  · obtain he | he := symbols_outcome s call
    · rw [he]
      exact h.ordered
    · rw [he, List.pairwise_append]
      refine ⟨h.ordered, ?_, ?_⟩
      · cases call.statement.label <;> simp [labelSymbols]
      · intro r hr r' hr'
        obtain ⟨name, -, rfl⟩ := List.mem_map.mp hr'
        exact (h.bounded r hr).2
  · have hold : ∀ r ∈ s.symbols.symbols,
        start ≤ r.offset ∧ r.offset ≤ (call.outcome s).session.address :=
      fun r hr => ⟨(h.bounded r hr).1, Int.le_trans (h.bounded r hr).2 hle⟩
    obtain he | he := symbols_outcome s call
    · rw [he]
      exact hold
    · rw [he]
      intro r hr
      obtain hr | hr := List.mem_append.mp hr
      · exact hold r hr
      · obtain ⟨name, -, rfl⟩ := List.mem_map.mp hr
        refine ⟨?_, hle⟩
        change start ≤ (s.address : Int)
        rw [h.address]
        omega

lemma symbols_prefix_outcome :
    s.symbols.symbols <+: (call.outcome s).session.symbols.symbols := by
  obtain he | he := symbols_outcome s call
  · exact he ▸ List.prefix_refl _
  · rw [he]
    exact List.prefix_append _ _

end Step

/-- Symbols once present are never changed, reordered or removed. -/
lemma symbols_prefix_resolveAll (s : Session) (calls : List Call) :
    s.symbols.symbols <+: (resolveAll s calls).symbols.symbols := by
  induction calls generalizing s with
  | nil => exact List.prefix_refl _
  | cons call calls ih => exact symbols_prefix_outcome.trans (ih (call.outcome s).session)

lemma accounted_resolveAll {start : Int} {size : Nat} {s : Session} (h : Accounted start size s)
    (calls : List Call) :
    Accounted start (size + dispatchedSize s calls) (resolveAll s calls) := by
  induction calls generalizing s size with
  | nil => exact h
  | cons call calls ih =>
    rw [dispatchedSize, ← Nat.add_assoc]
    exact ih (accounted_outcome h)

lemma settings_resolveAll (s : Session) (calls : List Call) :
    (resolveAll s calls).config = s.config ∧ (resolveAll s calls).mnemonics = s.mnemonics ∧
      (resolveAll s calls).filename = s.filename := by
  induction calls generalizing s with
  | nil => exact ⟨rfl, rfl, rfl⟩
  | cons call calls ih =>
    obtain ⟨hc, hm, hf⟩ := settings_outcome s call
    obtain ⟨hc', hm', hf'⟩ := ih (call.outcome s).session
    exact ⟨hc'.trans hc, hm'.trans hm, hf'.trans hf⟩

/-- Session invariant. A counter can start at any address that is not negative, and a new session
with it is governed by the laws above, whatever calls of the resolve step it sees. -/
theorem session_governed (config : Config) (mnemonics : MnemonicTable) (filename : Text)
    {start : Int} (nonneg : 0 ≤ start) (calls : List Call) :
    ∃ counter, AddressCounter.start start = .ok counter ∧
      Governed start { config, mnemonics, filename, counter } calls := by
  obtain ⟨n, rfl⟩ := Int.eq_ofNat_of_zero_le nonneg
  refine ⟨⟨n⟩, rfl, ?_⟩
  let s : Session := { config, mnemonics, filename, counter := ⟨n⟩ }
  have hnew : Accounted n 0 s := by
    refine ⟨rfl, List.nodup_nil, List.Pairwise.nil, ?_⟩
    intro r hr
    cases hr
  have haccounted := accounted_resolveAll hnew calls
  rw [Nat.zero_add] at haccounted
  obtain ⟨hc, hm, hf⟩ := settings_resolveAll s calls
  refine ⟨haccounted, hc, hm, hf, fun call d => refused_of_failure _ call,
    fun call => resolved_of_no_failure _ call, fun later => ?_⟩
  rw [resolveAll_append]
  exact symbols_prefix_resolveAll _ later

/-- Five calls from address 7, three of which fail: a name that is taken, an operand alone and a
mnemonic that is not known. -/
theorem five_calls_governed :
    let call := fun (label mnemonic operand : Option Text) (line : Int) =>
      (⟨{}, ⟨label, mnemonic, operand⟩, line, none⟩ : Call)
    let calls := [call (some ['a']) (some ['D', 'B']) none 1, call (some ['A']) none none 1,
      call (some ['b']) none (some ['x']) (-3), call (some ['c']) (some ['j', 'm', 'p']) none 2,
      call none (some ['i', 'n', 't']) (some ['1']) 9]
    (0 : Int) ≤ 7 ∧ ∃ counter, AddressCounter.start 7 = .ok counter ∧
      Governed 7 { filename := ['f'], counter } calls ∧
      (resolveAll { filename := ['f'], counter } calls).address = 11 ∧
      (resolveAll { filename := ['f'], counter } calls).symbols.symbols =
        [⟨['a'], 7, 1, ⟨['f'], 1⟩⟩, ⟨['b'], 8, -3, ⟨['f'], -3⟩⟩, ⟨['c'], 8, 2, ⟨['f'], 2⟩⟩] := by
  refine ⟨by decide, ?_⟩
  obtain ⟨counter, hstart, hgoverned⟩ :=
    session_governed {} MnemonicTable.standard ['f'] (show (0 : Int) ≤ 7 by decide) _
  have hseven : counter = ⟨7⟩ := (Except.ok.inj hstart).symm
  refine ⟨counter, hstart, hgoverned, ?_, ?_⟩
  · rw [hseven]
    decide +kernel
  · rw [hseven]
    decide +kernel

end OnePass.Proofs
