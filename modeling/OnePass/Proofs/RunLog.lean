import OnePass.Proofs.SourceRun

/-!
# The log of a run

A line logs at most two things: the label that it declares and then the handler that it dispatches.
In the same step the symbol and the size of the handler go into the session. So the log of a run
tells the symbols and the address that the run leaves, wherever it ends, and a summary closes the
log of a run that reaches the end of its source.
-/

namespace OnePass.Proofs

/-- The parts of the program that keep a log. -/
inductive Origin where
  | scan
  | symbols
  | mnemonics
  | runs
  | calls
deriving DecidableEq

def originOf : Event → Origin
  | .unterminatedSpan _ => .scan
  | .labelDeclared _ _ _ => .symbols
  | .dispatched _ _ _ _ => .mnemonics
  | .opening _ => .runs
  | .completed _ _ _ _ => .runs
  | .symbolsWritten _ => .calls

/-- What one part of the program has logged, in order. -/
def loggedBy (origin : Origin) (events : List Event) : List Event :=
  events.filter fun e => originOf e = origin

/-- The messages that one part of the program has logged, in order. -/
def messagesOf (origin : Origin) (events : List Event) : List Text :=
  (loggedBy origin events).map Event.message

/-- What is logged of a symbol. -/
def declarationEvent (r : Symbol) : Event := .labelDeclared r.name r.offset r.line

/-- The message on a symbol. -/
def declarationMessage (r : Symbol) : Text :=
  "label " ++ Text.quoted r.name ++ " = " ++ Text.ofInt r.offset ++ " (line " ++
    Text.ofInt r.line ++ ")"

/-- A mnemonic that a line dispatches: the number of the line, its operand if it has one and the
handler of the mnemonic. -/
structure Dispatch where
  line : Int
  operand : Option Text
  handler : Handler

namespace Dispatch

/-- What is logged of a dispatched mnemonic. -/
def event (d : Dispatch) : Event :=
  .dispatched d.handler.keyword d.line d.operand d.handler.size

/-- The message on a dispatched mnemonic. -/
def message (d : Dispatch) : Text :=
  d.handler.keyword ++ ": line=" ++ Text.ofInt d.line ++ " operand=[" ++ d.operand.getD [] ++
    "] size=" ++ Text.ofNat d.handler.size

/-- The sum of the sizes of some dispatched mnemonics. -/
def totalSize : List Dispatch → Nat
  | [] => 0
  | d :: rest => d.handler.size + totalSize rest

end Dispatch

/-- The operand of a raw line, as written. -/
def operandOf (c : Config) (raw : Text) : Option Text :=
  (Statement.parse? c.labelMark (Line.strip c raw)).bind Statement.operand

/-- What a raw line dispatches, if its mnemonic is known. -/
def dispatchOn (c : Config) (t : MnemonicTable) (line : Int) (raw : Text) : Option Dispatch :=
  ((mnemonicOf c raw).bind t.find?).map fun handler => ⟨line, operandOf c raw, handler⟩

/-- What some raw lines dispatch, in order, given the number of the line before them. -/
def dispatches (c : Config) (t : MnemonicTable) (n : Nat) : List Text → List Dispatch
  | [] => []
  | raw :: rest => (dispatchOn c t (n + 1) raw).toList ++ dispatches c t (n + 1) rest

/-- The lines that a run has handled without a failure: all that it has taken, or all but the
last. -/
def handledLines (lines : List Text) (r : Assembly) : List Text :=
  lines.take (r.linesRead - if r.failure.isSome then 1 else 0)

/-- The summary at the end of a run. -/
def summary (filename : Text) (lines labels address : Nat) : Text :=
  filename ++ ": " ++ Text.ofNat lines ++ " lines, " ++ Text.ofNat labels ++
    " labels, final address " ++ Text.ofNat address

/-- What is logged in this order is in the order of the lines, with the label of a line before its
mnemonic and nothing behind the summary. -/
def InLineOrder : Event → Event → Prop
  | .labelDeclared _ _ i, .labelDeclared _ _ j => i < j
  | .labelDeclared _ _ i, .dispatched _ j _ _ => i ≤ j
  | .dispatched _ i _ _, .labelDeclared _ _ j => i < j
  | .dispatched _ i _ _, .dispatched _ j _ _ => i < j
  | .completed _ _ _ _, _ => False
  | _, _ => True

/-- The log of a run over raw lines accounts for the session that the run leaves. -/
structure LogAccounts (a : Assembler) (filename : Text) (lines : List Text) (r : Assembly)
    (s : Session) : Prop where
  session : r.assembler.session = some s
  labels : messagesOf .symbols r.events = s.symbols.symbols.map declarationMessage
  mnemonics : messagesOf .mnemonics r.events =
    (dispatches a.config a.mnemonics 0 (handledLines lines r)).map Dispatch.message
  sizes : Dispatch.totalSize (dispatches a.config a.mnemonics 0 (handledLines lines r)) = s.address
  handled : (a.assembleLines (handledLines lines r) filename).failure = none
  taken : r.linesRead = (handledLines lines r).length + if r.failure.isSome then 1 else 0
  ordered : r.events.Pairwise InLineOrder
  closing : messagesOf .runs r.events = if r.assembler.complete
    then [summary filename r.linesRead s.symbols.size s.address] else []
  complete : r.assembler.complete = true ↔ r.failure = none
  all_read : r.failure = none → r.linesRead = lines.length

@[simp] lemma loggedBy_append (origin : Origin) (before after : List Event) :
    loggedBy origin (before ++ after) = loggedBy origin before ++ loggedBy origin after :=
  List.filter_append before after

lemma loggedBy_eq_self {origin : Origin} {events : List Event}
    (h : ∀ e ∈ events, originOf e = origin) : loggedBy origin events = events :=
  List.filter_eq_self.mpr fun e he => decide_eq_true (h e he)

lemma loggedBy_eq_nil {origin : Origin} {events : List Event}
    (h : ∀ e ∈ events, originOf e ≠ origin) : loggedBy origin events = [] :=
  List.filter_eq_nil_iff.mpr fun e he hd => h e he (of_decide_eq_true hd)

lemma Dispatch.totalSize_append (before after : List Dispatch) :
    Dispatch.totalSize (before ++ after) =
      Dispatch.totalSize before + Dispatch.totalSize after := by
  induction before with
  | nil => exact (Nat.zero_add _).symm
  | cons d before ih =>
    rw [List.cons_append, Dispatch.totalSize, Dispatch.totalSize, ih, Nat.add_assoc]

lemma map_declarationEvent (s : Session) (line : Int) (label : Option Text) :
    (labelSymbols s line label).map declarationEvent = labelEvents s line label :=
  List.map_map

/-- The events of a line: what its scan notes, and the label and the mnemonic of a line whose number
is of a given kind. -/
inductive LogsLine (p : Int → Prop) : Event → Prop
  | scan (raw : Text) : LogsLine p (.unterminatedSpan raw)
  | label {line : Int} (name : Text) (offset : Int) (number : p line) :
      LogsLine p (.labelDeclared name offset line)
  | mnemonic {line : Int} (keyword : Text) (operand : Option Text) (size : Nat) (number : p line) :
      LogsLine p (.dispatched keyword line operand size)

namespace LogsLine

variable {p q : Int → Prop} {e e' : Event}

lemma mono (h : LogsLine p e) (hpq : ∀ i, p i → q i) : LogsLine q e := by
  cases h with
  | scan raw => exact .scan raw
  | label name offset number => exact .label name offset (hpq _ number)
  | mnemonic keyword operand size number => exact .mnemonic keyword operand size (hpq _ number)

lemma originOf_ne_runs (h : LogsLine p e) : originOf e ≠ .runs := by
  cases h with
  | scan raw => exact Origin.noConfusion
  | label name offset number => exact Origin.noConfusion
  | mnemonic keyword operand size number => exact Origin.noConfusion

lemma inLineOrder {m n : Int} (h : LogsLine (· = m) e) (h' : LogsLine (n ≤ ·) e') (hlt : m < n) :
    InLineOrder e e' := by
  cases h with
  | scan raw => cases h' <;> trivial
  | label name offset number =>
    obtain rfl := number
    cases h' with
    | scan raw => trivial
    | label name' offset' number' => exact Int.lt_of_lt_of_le hlt number'
    | mnemonic keyword operand size number' => exact Int.le_of_lt (Int.lt_of_lt_of_le hlt number')
  | mnemonic keyword operand size number =>
    obtain rfl := number
    cases h' with
    | scan raw => trivial
    | label name offset number' => exact Int.lt_of_lt_of_le hlt number'
    | mnemonic keyword' operand' size' number' => exact Int.lt_of_lt_of_le hlt number'

lemma inLineOrder_completed (h : LogsLine p e) (filename : Text) (lines labels address : Nat) :
    InLineOrder e (.completed filename lines labels address) := by
  cases h <;> trivial

end LogsLine

section Lines

/-- What a line logs, given the label that it declares and the handler that it dispatches, and what
it does to the session in the same step. -/
structure LineLog (s : Session) (line : Int) (raw : Text) (o : Outcome) (noted : List Event)
    (label : Option Text) (dispatch : Option Dispatch) : Prop where
  config : o.session.config = s.config
  mnemonics : o.session.mnemonics = s.mnemonics
  noted_eq : noted = [] ∨ noted = [.unterminatedSpan raw]
  events : o.events = noted ++ (labelEvents s line label ++ dispatch.toList.map Dispatch.event)
  symbols : o.session.symbols.symbols = s.symbols.symbols ++ labelSymbols s line label
  address : o.session.address = s.address + Dispatch.totalSize dispatch.toList
  dispatch_eq : dispatch =
    if o.failure = none then dispatchOn s.config s.mnemonics line raw else none

lemma dispatchOn_of_parse? {c : Config} (t : MnemonicTable) (line : Int) {raw : Text}
    {st : Statement} (h : Statement.parse? c.labelMark (Line.strip c raw) = some st) :
    dispatchOn c t line raw =
      (st.mnemonic.bind t.find?).map fun handler => ⟨line, st.operand, handler⟩ := by
  rw [dispatchOn, ← mnemonicOf_eq h, operandOf, h]
  rfl

lemma scanEvents_eq (c : Config) (raw : Text) :
    scanEvents c raw = [] ∨ scanEvents c raw = [.unterminatedSpan raw] := by
  unfold scanEvents
  split
  · exact Or.inr rfl
  · exact Or.inl rfl

lemma lineLog_of_undispatched {s s' : Session} {line : Int} {raw : Text} {noted events : List Event}
    {label : Option Text} {failure : Option Diagnostic}
    (hnoted : noted = [] ∨ noted = [.unterminatedSpan raw]) (declared : Declared s line label s')
    (hevents : events = noted ++ labelEvents s line label)
    (hnone : failure = none → dispatchOn s.config s.mnemonics line raw = none) :
    LineLog s line raw { session := s', events, failure } noted label none := by
  refine ⟨declared.config, declared.mnemonics, hnoted, ?_, declared.symbols, declared.address, ?_⟩
  · rw [hevents, Option.toList_none, List.map_nil, List.append_nil]
  · split_ifs with hf
    · exact (hnone hf).symm
    · rfl

/-- A line that fails may have declared its label, but it has dispatched nothing. -/
theorem exists_lineLog (s : Session) (hints : MnemonicTable) (line : Int) (raw : Text) :
    ∃ noted label dispatch,
      LineLog s line raw (s.assembleLine hints line raw) noted label dispatch := by
  have hcases := assembleLine_cases s hints line raw
  have hscan := scanEvents_eq s.config raw
  have hunlabelled := declared_unlabelled s line
  generalize s.assembleLine hints line raw = o at hcases
  cases hcases with
  | tooLong long =>
    exact ⟨[], none, none, lineLog_of_undispatched (Or.inl rfl) hunlabelled rfl nofun⟩
  | refused short parsed =>
    exact ⟨_, none, none,
      lineLog_of_undispatched hscan hunlabelled (List.append_nil _).symm nofun⟩
  | @resolved st o short parsed resolution =>
    have hdispatch := dispatchOn_of_parse? s.mnemonics line parsed
    cases resolution with
    | duplicate label taken =>
      exact ⟨_, none, none, lineLog_of_undispatched hscan hunlabelled rfl nofun⟩
    | stray new declared mnemonic operand =>
      exact ⟨_, st.label, none, lineLog_of_undispatched hscan declared rfl nofun⟩
    | unknown new declared mnemonic missing =>
      exact ⟨_, st.label, none, lineLog_of_undispatched hscan declared rfl nofun⟩
    | @dispatched s' m handler new declared mnemonic found =>
      refine ⟨_, st.label, some ⟨line, st.operand, handler⟩, declared.config, declared.mnemonics,
        hscan, rfl, declared.symbols, ?_, ?_⟩
      · exact congrArg (· + handler.size) declared.address
      · rw [if_pos rfl, hdispatch, mnemonic, Option.bind_some, found]
        rfl
    | silent new declared mnemonic operand =>
      refine ⟨_, st.label, none, lineLog_of_undispatched hscan declared rfl fun _ => ?_⟩
      rw [hdispatch, mnemonic]
      rfl

variable {s : Session} {line : Int} {raw : Text} {o : Outcome} {noted : List Event}
  {label : Option Text} {dispatch : Option Dispatch}

lemma originOf_labelEvents : ∀ e ∈ labelEvents s line label, originOf e = .symbols := by
  intro e he
  obtain ⟨name, -, rfl⟩ := List.mem_map.mp he
  rfl

lemma originOf_dispatches (ds : List Dispatch) :
    ∀ e ∈ ds.map Dispatch.event, originOf e = .mnemonics := by
  intro e he
  obtain ⟨d, -, rfl⟩ := List.mem_map.mp he
  rfl

lemma LineLog.originOf_noted (h : LineLog s line raw o noted label dispatch) :
    ∀ e ∈ noted, originOf e = .scan := by
  obtain rfl | rfl := h.noted_eq
  · exact List.forall_mem_nil _
  · exact List.forall_mem_singleton.mpr rfl

lemma LineLog.loggedBy_symbols (h : LineLog s line raw o noted label dispatch) :
    loggedBy .symbols o.events = labelEvents s line label := by
  rw [h.events, loggedBy_append, loggedBy_append, loggedBy_eq_self originOf_labelEvents,
    loggedBy_eq_nil fun e he => by simp [h.originOf_noted e he],
    loggedBy_eq_nil fun e he => by simp [originOf_dispatches _ e he],
    List.nil_append, List.append_nil]

lemma LineLog.loggedBy_mnemonics (h : LineLog s line raw o noted label dispatch) :
    loggedBy .mnemonics o.events = dispatch.toList.map Dispatch.event := by
  rw [h.events, loggedBy_append, loggedBy_append, loggedBy_eq_self (originOf_dispatches _),
    loggedBy_eq_nil fun e he => by simp [h.originOf_noted e he],
    loggedBy_eq_nil fun e he => by simp [originOf_labelEvents e he],
    List.nil_append, List.nil_append]

lemma LineLog.line_eq (h : LineLog s line raw o noted label dispatch) {d : Dispatch}
    (hd : dispatch = some d) : d.line = line := by
  have heq := h.dispatch_eq
  rw [hd] at heq
  split_ifs at heq
  obtain ⟨handler, -, rfl⟩ := Option.map_eq_some_iff.mp heq.symm
  rfl

lemma LineLog.logsLine (h : LineLog s line raw o noted label dispatch) :
    ∀ e ∈ o.events, LogsLine (· = line) e := by
  have hnoted : ∀ e ∈ noted, LogsLine (· = line) e := by
    obtain rfl | rfl := h.noted_eq
    · exact List.forall_mem_nil _
    · exact List.forall_mem_singleton.mpr (.scan raw)
  rw [h.events, List.forall_mem_append, List.forall_mem_append]
  refine ⟨hnoted, ?_, ?_⟩
  · intro e he
    obtain ⟨name, -, rfl⟩ := List.mem_map.mp he
    exact .label name _ rfl
  · intro e he
    obtain ⟨d, hd, rfl⟩ := List.mem_map.mp he
    exact .mnemonic _ _ _ (h.line_eq (Option.mem_toList.mp hd))

lemma LineLog.ordered (h : LineLog s line raw o noted label dispatch) :
    o.events.Pairwise InLineOrder := by
  have hline : (labelEvents s line label ++ dispatch.toList.map Dispatch.event).Pairwise
      InLineOrder := by
    cases label with
    | none => cases dispatch <;> simp [labelEvents]
    | some name =>
      cases hd : dispatch with
      | none => simp [labelEvents]
      | some d => simp [labelEvents, Dispatch.event, InLineOrder, h.line_eq hd]
  rw [h.events]
  obtain rfl | rfl := h.noted_eq
  · exact hline
  · refine List.pairwise_cons.mpr ⟨fun e _ => ?_, hline⟩
    cases e <;> trivial

end Lines

section Runs

variable {s : Session} {hints : MnemonicTable} {n : Nat} {lines : List Text}

/-- What a pass logs, given how many lines it handles without a failure, and what it does to the
session. -/
structure PassLog (s : Session) (n : Nat) (lines : List Text) (p : Pass) (k : Nat) : Prop where
  linesRead : p.linesRead = n + k + if p.failure.isSome then 1 else 0
  labels : p.session.symbols.symbols.map declarationEvent =
    s.symbols.symbols.map declarationEvent ++ loggedBy .symbols p.events
  mnemonics : loggedBy .mnemonics p.events =
    (dispatches s.config s.mnemonics n (lines.take k)).map Dispatch.event
  address : p.session.address =
    s.address + Dispatch.totalSize (dispatches s.config s.mnemonics n (lines.take k))
  logsLine : ∀ e ∈ p.events, LogsLine ((n + 1 : Int) ≤ ·) e
  ordered : p.events.Pairwise InLineOrder

/-- The log of a pass is that of its first line followed by that of the others. -/
theorem exists_passLog (s : Session) (hints : MnemonicTable) (n : Nat) (lines : List Text) :
    ∃ k, PassLog s n lines (s.pass hints n lines) k := by
  induction lines generalizing s n with
  | nil =>
    exact ⟨0, rfl, (List.append_nil _).symm, rfl, rfl, List.forall_mem_nil _, .nil⟩
  | cons raw rest ih =>
    obtain ⟨noted, label, dispatch, h⟩ := exists_lineLog s hints (n + 1) raw
    rw [pass_cons]
    generalize s.assembleLine hints (n + 1) raw = o at h
    have hlabels : o.session.symbols.symbols.map declarationEvent =
        s.symbols.symbols.map declarationEvent ++ loggedBy .symbols o.events := by
      rw [h.symbols, List.map_append, map_declarationEvent, h.loggedBy_symbols]
    have hlines : ∀ e ∈ o.events, LogsLine ((n + 1 : Int) ≤ ·) e :=
      fun e he => (h.logsLine e he).mono fun i hi => Int.le_of_eq hi.symm
    have heq := h.dispatch_eq
    cases hf : o.failure with
    | some d =>
      rw [hf, if_neg (Option.some_ne_none d)] at heq
      refine ⟨0, rfl, hlabels, ?_, ?_, hlines, h.ordered⟩
      · rw [h.loggedBy_mnemonics, heq]
        rfl
      · rw [h.address, heq]
        rfl
    | none =>
      obtain ⟨k, later⟩ := ih o.session (n + 1)
      rw [hf, if_pos rfl] at heq
      have hds : dispatches s.config s.mnemonics n ((raw :: rest).take (k + 1)) =
          dispatch.toList ++
            dispatches o.session.config o.session.mnemonics (n + 1) (rest.take k) := by
        rw [List.take_succ_cons, dispatches, heq, h.config, h.mnemonics]
      refine ⟨k + 1, ?_, ?_, ?_, ?_, ?_, ?_⟩
      · exact later.linesRead.trans (congrArg (· + _) (Nat.add_right_comm n 1 k))
      · rw [later.labels, hlabels, loggedBy_append, List.append_assoc]
      · rw [hds, List.map_append, loggedBy_append, later.mnemonics, h.loggedBy_mnemonics]
      · rw [hds, Dispatch.totalSize_append, later.address, h.address, Nat.add_assoc]
      · refine List.forall_mem_append.mpr ⟨hlines, fun e he => ?_⟩
        apply (later.logsLine e he).mono
        intro i hi
        omega
      · refine List.pairwise_append.mpr ⟨h.ordered, later.ordered, fun e he e' he' => ?_⟩
        apply (h.logsLine e he).inLineOrder (later.logsLine e' he')
        omega

lemma map_message_declarations (symbols : List Symbol) :
    (symbols.map declarationEvent).map Event.message = symbols.map declarationMessage :=
  List.map_map

lemma map_message_dispatches (ds : List Dispatch) :
    (ds.map Dispatch.event).map Event.message = ds.map Dispatch.message :=
  List.map_map

/-- What is logged behind a pass: the summary, unless the pass has failed. -/
def closingEvents (filename : Text) (p : Pass) : List Event :=
  if p.failure.isSome then []
  else [.completed filename p.linesRead p.session.symbols.size p.session.address]

lemma assembleLines_eq (a : Assembler) (filename : Text) (lines : List Text) :
    a.assembleLines lines filename =
      { assembler := { a with
          session := some (passOver a filename lines).session
          complete := (passOver a filename lines).failure.isNone }
        events := (passOver a filename lines).events ++
          closingEvents filename (passOver a filename lines)
        linesRead := (passOver a filename lines).linesRead
        failure := (passOver a filename lines).failure.map .diagnostic } := by
  unfold Assembler.assembleLines closingEvents
  cases hp : (passOver a filename lines).failure with
  | some d =>
    rw [assembleSource_of_stopped ⟨lines, none⟩ hp]
    simp
  | none =>
    rw [assembleSource_of_completed ⟨lines, none⟩ hp rfl]
    simp

lemma passes_of_linesRead {k : Nat} (h : (s.pass hints 0 lines).linesRead =
    k + if (s.pass hints 0 lines).failure.isSome then 1 else 0) :
    k ≤ lines.length ∧ (s.pass hints 0 (lines.take k)).failure = none := by
  obtain ⟨m, hle, hread, htake, hbefore⟩ := pass_takes s hints 0 lines
  cases hp : (s.pass hints 0 lines).failure with
  | some d =>
    rw [hp, Option.isSome_some, if_pos rfl] at h
    have hlt : k < m := by omega
    exact ⟨by omega, hbefore k hlt⟩
  | none =>
    rw [hp, Option.isSome_none, if_neg Bool.false_ne_true] at h
    have heq : k = m := by omega
    refine ⟨heq ▸ hle, ?_⟩
    rw [heq, htake, hp]

lemma loggedBy_closingEvents {origin : Origin} (h : origin ≠ .runs) (filename : Text) (p : Pass) :
    loggedBy origin (closingEvents filename p) = [] := by
  apply loggedBy_eq_nil
  intro e he
  unfold closingEvents at he
  split_ifs at he
  · cases he
  · obtain rfl := List.mem_singleton.mp he
    exact h.symm

lemma messagesOf_closingEvents (filename : Text) (p : Pass) :
    messagesOf .runs (closingEvents filename p) = if p.failure.isNone
      then [summary filename p.linesRead p.session.symbols.size p.session.address] else [] := by
  unfold closingEvents
  cases p.failure with
  | some d => rfl
  | none => rfl

lemma ordered_closing {events : List Event} {q : Int → Prop} (hlines : ∀ e ∈ events, LogsLine q e)
    (hordered : events.Pairwise InLineOrder) (filename : Text) (p : Pass) :
    (events ++ closingEvents filename p).Pairwise InLineOrder := by
  unfold closingEvents
  split_ifs
  · rwa [List.append_nil]
  · refine List.pairwise_append.mpr ⟨hordered, List.pairwise_singleton _ _, fun e he => ?_⟩
    exact List.forall_mem_singleton.mpr ((hlines e he).inLineOrder_completed _ _ _ _)

/-- A run over raw lines accounts in its log for the session that it leaves, and closes the log with
a summary just when it completes. -/
theorem log_accounts_for_run (a : Assembler) (filename : Text) (lines : List Text) :
    ∃ s, LogAccounts a filename lines (a.assembleLines lines filename) s := by
  obtain ⟨k, h⟩ := exists_passLog (a.newSession filename) a.mnemonics 0 lines
  have hread : (passOver a filename lines).linesRead =
      k + if (passOver a filename lines).failure.isSome then 1 else 0 :=
    h.linesRead.trans (congrArg (· + _) (Nat.zero_add k))
  obtain ⟨hle, hpasses⟩ := passes_of_linesRead hread
  have hhandled : handledLines lines (a.assembleLines lines filename) = lines.take k := by
    rw [assembleLines_eq, handledLines, Option.isSome_map, hread, Nat.add_sub_cancel]
  have hsymbols : (passOver a filename lines).session.symbols.symbols.map declarationEvent =
      loggedBy .symbols (passOver a filename lines).events := h.labels
  have hruns : loggedBy .runs (passOver a filename lines).events = [] :=
    loggedBy_eq_nil fun e he => (h.logsLine e he).originOf_ne_runs
  refine ⟨(passOver a filename lines).session, ?_⟩
  constructor
  case session => rw [assembleLines_eq]
  case labels =>
    rw [assembleLines_eq, messagesOf, loggedBy_append, ← hsymbols,
      loggedBy_closingEvents (by decide), List.append_nil, map_message_declarations]
  case mnemonics =>
    rw [hhandled, assembleLines_eq, messagesOf, loggedBy_append, h.mnemonics,
      loggedBy_closingEvents (by decide), List.append_nil, map_message_dispatches]
    rfl
  case sizes =>
    rw [hhandled]
    exact (Nat.zero_add _).symm.trans h.address.symm
  case handled =>
    rw [hhandled, assembleLines_failure_eq_none_iff]
    exact hpasses
  case taken =>
    rw [hhandled, List.length_take_of_le hle, assembleLines_eq, Option.isSome_map]
    exact hread
  case ordered =>
    rw [assembleLines_eq]
    exact ordered_closing h.logsLine h.ordered _ _
  case closing =>
    rw [assembleLines_eq, messagesOf, loggedBy_append, hruns]
    exact messagesOf_closingEvents _ _
  case complete => rw [assembleLines_eq, Option.isNone_iff_eq_none, Option.map_eq_none_iff]
  case all_read =>
    intro hnone
    rw [assembleLines_failure_eq_none_iff] at hnone
    rw [assembleLines_eq]
    exact (pass_linesRead hnone).trans (Nat.zero_add _)

/-- The label of a line whose mnemonic is unknown is logged, and nothing after it. -/
example :
    let lines : List Text := ["a: int 21h\n".toList, "b: jmp a\n".toList, "c: db 1\n".toList]
    let events := (({} : Assembler).assembleLines lines "p.asm").events
    messagesOf .symbols events =
        ["label 'a' = 0 (line 1)".toList, "label 'b' = 3 (line 2)".toList] ∧
      messagesOf .mnemonics events = ["int: line=1 operand=[21h] size=3".toList] ∧
        messagesOf .runs events = [] := by
  decide +kernel

end Runs

end OnePass.Proofs
