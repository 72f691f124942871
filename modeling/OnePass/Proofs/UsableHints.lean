import OnePass.Proofs.SourceRun

/-!
# Hints on unknown mnemonics

A session looks a mnemonic up in its own table, while the hints come from the table of the
assembler. In a run these are one table and every hint can be followed. In a session of another
table the hints can be followed just when none of the keywords that the assembler offers is missing
there.
-/

namespace OnePass.Proofs

/-- A table offers a keyword for a name: it is spelled like it, with at most two such before it. -/
def Offers (t : MnemonicTable) (name keyword : Text) : Prop :=
  ∃ before after, t.keywords = before ++ keyword :: after ∧
    MnemonicTable.isSimilar name keyword = true ∧
    (before.filter (MnemonicTable.isSimilar name)).length < 3

/-- What makes a session refuse the mnemonic of a line. -/
structure MissesMnemonic (s : Session) (st : Statement) (m : Text) : Prop where
  new : IsNew s st.label
  mnemonic : st.mnemonic = some m
  missing : s.mnemonics.find? m = none

/-- With this keyword as its mnemonic the line is dispatched and advances the address. -/
def CanDispatch (s : Session) (hints : MnemonicTable) (st : Statement) (line : Int)
    (shown : Option Text) (keyword : Text) : Prop :=
  let o := s.dispatch hints { st with mnemonic := some keyword } line shown
  o.failure = none ∧ ∃ h, s.mnemonics.find? keyword = some h ∧
    o.session.address = s.address + h.size

/-- Each keyword that the refusal of a mnemonic suggests is dispatched in the session that the
refusal leaves. -/
def HintsUsable (a : Assembler) (s : Session) (st : Statement) (line : Int)
    (shown : Option Text) : Prop :=
  let o := s.resolve a.mnemonics st line shown
  ∀ d m similar, o.failure = some d → d.cause = .unknownMnemonic m similar →
    ∀ keyword ∈ similar, CanDispatch o.session a.mnemonics st line shown keyword

section Offering

lemma mem_take_filter_iff {α : Type} (p : α → Bool) (n : Nat) (l : List α) (x : α) :
    x ∈ (l.filter p).take n ↔
      ∃ before after, l = before ++ x :: after ∧ p x = true ∧ (before.filter p).length < n := by
  induction l generalizing n with
  | nil => simp
  | cons y l ih =>
    by_cases hy : p y = true
    · rw [List.filter_cons_of_pos hy]
      cases n with
      | zero => simp
      | succ n =>
        rw [List.take_succ_cons, List.mem_cons, ih]
        constructor
        · rintro (rfl | ⟨before, after, rfl, hx, hlen⟩)
          · exact ⟨[], l, rfl, hy, by simp⟩
          · refine ⟨y :: before, after, rfl, hx, ?_⟩
            rw [List.filter_cons_of_pos hy, List.length_cons]
            omega
        · rintro ⟨before, after, he, hx, hlen⟩
          cases before with
          | nil => exact Or.inl (List.cons.inj he).1.symm
          | cons z before =>
            obtain ⟨rfl, rfl⟩ := List.cons.inj he
            rw [List.filter_cons_of_pos hy, List.length_cons] at hlen
            exact Or.inr ⟨before, after, rfl, hx, by omega⟩
    · rw [List.filter_cons_of_neg hy, ih]
      constructor
      · rintro ⟨before, after, rfl, hx, hlen⟩
        refine ⟨y :: before, after, rfl, hx, ?_⟩
        rwa [List.filter_cons_of_neg hy]
      · rintro ⟨before, after, he, hx, hlen⟩
        cases before with
        | nil => exact absurd ((List.cons.inj he).1 ▸ hx) hy
        | cons z before =>
          obtain ⟨rfl, rfl⟩ := List.cons.inj he
          rw [List.filter_cons_of_neg hy] at hlen
          exact ⟨before, after, rfl, hx, hlen⟩

theorem mem_similar_iff (t : MnemonicTable) (name keyword : Text) :
    keyword ∈ t.similar name ↔ Offers t name keyword :=
  mem_take_filter_iff _ 3 _ _

lemma find?_of_mem_similar {t : MnemonicTable} {name keyword : Text}
    (h : keyword ∈ t.similar name) : t.find? keyword ≠ none := by
  have hmem : keyword ∈ t.keywords := List.mem_of_mem_filter (List.mem_of_mem_take h)
  obtain ⟨handler, hhandler, rfl⟩ := List.mem_map.mp hmem
  rw [(mnemonic_find?_eq_some_iff t handler.keyword handler).mpr ⟨hhandler, rfl⟩]
  exact Option.some_ne_none handler

end Offering

section Refusing

variable (s : Session) (hints : MnemonicTable) (st : Statement) (line : Int) (shown : Option Text)

lemma canDispatch_iff (keyword : Text) :
    CanDispatch s hints st line shown keyword ↔ s.mnemonics.find? keyword ≠ none := by
  unfold CanDispatch Session.dispatch
  dsimp only
  cases hf : s.mnemonics.find? keyword with
  | none =>
    refine iff_of_false ?_ (by simp)
    rintro ⟨-, h, hfound, -⟩
    cases hfound
  | some h => exact iff_of_true ⟨rfl, h, rfl, rfl⟩ (Option.some_ne_none h)

variable {s hints st line shown}

lemma similar_of_resolution {o : Outcome} (h : Resolution s hints st line shown o) {d : Diagnostic}
    {m : Text} {similar : List Text} (failed : o.failure = some d)
    (cause : d.cause = .unknownMnemonic m similar) :
    MissesMnemonic s st m ∧ similar = hints.similar m := by
  cases h with
  | duplicate label taken =>
    cases failed
    cases cause
  | stray new declared mnemonic operand =>
    cases failed
    cases cause
  | unknown new declared mnemonic missing =>
    cases failed
    cases cause
    exact ⟨⟨new, mnemonic, missing⟩, rfl⟩
  | dispatched new declared mnemonic found => cases failed
  | silent new declared mnemonic operand => cases failed

lemma resolve_of_missesMnemonic (hints : MnemonicTable) (line : Int) (shown : Option Text)
    {m : Text} (h : MissesMnemonic s st m) :
    ∃ d, (s.resolve hints st line shown).failure = some d ∧
      d.cause = .unknownMnemonic m (hints.similar m) := by
  have hcases := resolve_cases s hints st line shown
  generalize s.resolve hints st line shown = o at hcases
  cases hcases with
  | duplicate label taken => cases (h.new _ label).symm.trans taken
  | stray new declared mnemonic operand => cases mnemonic.symm.trans h.mnemonic
  | unknown new declared mnemonic missing =>
    obtain rfl := Option.some.inj (mnemonic.symm.trans h.mnemonic)
    exact ⟨_, rfl, rfl⟩
  | dispatched new declared mnemonic found =>
    obtain rfl := Option.some.inj (mnemonic.symm.trans h.mnemonic)
    cases h.missing.symm.trans found
  | silent new declared mnemonic operand => cases mnemonic.symm.trans h.mnemonic

lemma hintsUsable_iff (a : Assembler) (s : Session) (st : Statement) (line : Int)
    (shown : Option Text) :
    HintsUsable a s st line shown ↔ ∀ m, MissesMnemonic s st m →
      ∀ keyword ∈ a.mnemonics.similar m, s.mnemonics.find? keyword ≠ none := by
  have hsettings : (s.resolve a.mnemonics st line shown).session.mnemonics = s.mnemonics :=
    (settings_of_resolution (resolve_cases s a.mnemonics st line shown)).2.1
  simp only [HintsUsable, canDispatch_iff, hsettings]
  constructor
  · intro h m hmisses keyword hkeyword
    obtain ⟨d, failed, cause⟩ := resolve_of_missesMnemonic a.mnemonics line shown hmisses
    exact h d m _ failed cause keyword hkeyword
  · intro h d m similar failed cause keyword hkeyword
    obtain ⟨hmisses, rfl⟩ := similar_of_resolution (resolve_cases _ _ _ _ _) failed cause
    exact h m hmisses keyword hkeyword

end Refusing

section Running

variable {s : Session} {hints : MnemonicTable} {d : Diagnostic} {m : Text} {similar : List Text}

lemma similar_of_assembleLine {line : Int} {raw : Text}
    (failed : (s.assembleLine hints line raw).failure = some d)
    (cause : d.cause = .unknownMnemonic m similar) : similar = hints.similar m := by
  have hcases := assembleLine_cases s hints line raw
  generalize s.assembleLine hints line raw = o at failed hcases
  cases hcases with
  | tooLong long =>
    cases failed
    cases cause
  | refused short parsed =>
    cases failed
    cases cause
  | resolved short parsed resolution => exact (similar_of_resolution resolution failed cause).2

lemma mnemonics_pass (s : Session) (hints : MnemonicTable) (n : Nat) (lines : List Text) :
    (s.pass hints n lines).session.mnemonics = s.mnemonics := by
  induction lines generalizing s n with
  | nil => rfl
  | cons raw rest ih =>
    have hline : (s.assembleLine hints (n + 1) raw).session.mnemonics = s.mnemonics := by
      have hcases := assembleLine_cases s hints (n + 1) raw
      generalize s.assembleLine hints (n + 1) raw = o at hcases
      cases hcases with
      | tooLong long => rfl
      | refused short parsed => rfl
      | resolved short parsed resolution =>
        have hsettings := settings_of_resolution resolution
        exact hsettings.2.1
    rw [pass_cons]
    cases (s.assembleLine hints (n + 1) raw).failure with
    | none => exact (ih _ _).trans hline
    | some d => exact hline

lemma similar_of_pass {n : Nat} {lines : List Text}
    (failed : (s.pass hints n lines).failure = some d)
    (cause : d.cause = .unknownMnemonic m similar) : similar = hints.similar m := by
  induction lines generalizing s n with
  | nil => cases failed
  | cons raw rest ih =>
    rw [pass_cons] at failed
    cases hf : (s.assembleLine hints (n + 1) raw).failure with
    | none =>
      rw [hf] at failed
      exact ih failed
    | some first =>
      rw [hf] at failed
      obtain rfl := Option.some.inj failed
      exact similar_of_assembleLine hf cause

/-- In a run the hints come from the table of the session that the run leaves. -/
theorem similar_of_run {a : Assembler} {source : Source} {filename : Text}
    (failed : (a.assembleSource source filename).failure = some (.diagnostic d))
    (cause : d.cause = .unknownMnemonic m similar) :
    ∃ s, (a.assembleSource source filename).assembler.session = some s ∧
      similar = s.mnemonics.similar m := by
  cases hp : (passOver a filename source.lines).failure with
  | none =>
    cases hf : source.fault with
    | none =>
      rw [assembleSource_of_completed source hp hf] at failed
      cases failed
    | some fault =>
      rw [assembleSource_of_broken source hp hf] at failed
      cases fault with
      | undecodable fault =>
        cases failed
        cases cause
      | noByteOrderMark => cases failed
  | some d' =>
    rw [assembleSource_of_stopped source hp] at failed ⊢
    cases failed
    refine ⟨_, rfl, ?_⟩
    have hmnemonics : (passOver a filename source.lines).session.mnemonics = a.mnemonics :=
      mnemonics_pass _ _ _ _
    rw [hmnemonics]
    exact similar_of_pass hp cause

end Running

/-- A session of any table can follow the hints on a line just when it knows all keywords that the
assembler offers for the mnemonic it misses. The hints in a run are keywords of the one table that
there is. -/
theorem hints_usable_iff (a : Assembler) :
    (∀ s st line shown, HintsUsable a s st line shown ↔
      ∀ m, MissesMnemonic s st m → ∀ keyword, Offers a.mnemonics m keyword →
        ∃ h ∈ s.mnemonics.handlers, Text.foldCase h.keyword = Text.foldCase keyword) ∧
    ∀ source filename d m similar,
      let r := a.assembleSource source filename
      r.failure = some (.diagnostic d) → d.cause = .unknownMnemonic m similar →
        ∃ s, r.assembler.session = some s ∧
          ∀ keyword ∈ similar, s.mnemonics.find? keyword ≠ none := by
  constructor
  · intro s st line shown
    rw [hintsUsable_iff]
    simp only [mem_similar_iff, ne_eq, mnemonic_find?_eq_none_iff]
    push Not
    rfl
  · intro source filename d m similar r failed cause
    obtain ⟨s, hsession, rfl⟩ := similar_of_run failed cause
    exact ⟨s, hsession, fun keyword hkeyword => find?_of_mem_similar hkeyword⟩

theorem misspelled_mnemonic_hinted :
    let r := ({} : Assembler).assembleSource (Source.ofText "a: mvo 1") "p.asm"
    ∃ d, r.failure = some (.diagnostic d) ∧ d.cause = .unknownMnemonic "mvo" ["mov".toList] ∧
      ∃ s, r.assembler.session = some s ∧
        ∀ keyword ∈ ["mov".toList], s.mnemonics.find? keyword ≠ none := by
  intro r
  have failed : r.failure = some (.diagnostic ⟨.unknownMnemonic "mvo" ["mov".toList],
      some ⟨"p.asm", 1⟩, some "a: mvo 1"⟩) := by
    decide +kernel
  exact ⟨_, failed, rfl, (hints_usable_iff {}).2 _ _ _ _ _ failed rfl⟩

/-- A session that knows no mnemonic but one is told to write the standard one it has just been
given. -/
theorem unusable_hint_given :
    ¬∀ (a : Assembler) (s : Session) (st : Statement) (line : Int) (shown : Option Text),
      HintsUsable a s st line shown := by
  intro hall
  let nop : Handler := ⟨['n', 'o', 'p'], 1, by decide⟩
  let s : Session := { mnemonics := ⟨[nop], by decide⟩ }
  let st : Statement := { mnemonic := some ['m', 'o', 'v'] }
  have hmisses : MissesMnemonic s st ['m', 'o', 'v'] :=
    ⟨by rintro name ⟨⟩, rfl, by decide +kernel⟩
  obtain ⟨d, failed, cause⟩ := resolve_of_missesMnemonic MnemonicTable.standard 1 none hmisses
  have husable := hall {} s st 1 none d _ _ failed cause ['m', 'o', 'v'] (by decide +kernel)
  exact (canDispatch_iff _ _ _ _ _ _).mp husable (by decide +kernel)

end OnePass.Proofs
