import OnePass.Proofs.TableLookup

/-!
# Tables made from sizes

A table of mnemonics is made from keywords and their sizes in two ways: each handler goes into the
table before the next is made, or all of them are made first. Both ways lead to the one table whose
handlers have the keywords and sizes in order, whenever there is such a table. The first way fails
at the first entry that has a fault.
-/

namespace OnePass.Proofs

/-- The keyword and the size of a handler. -/
def keywordSize (h : Handler) : Text × Int := (h.keyword, h.size)

/-- All handlers are made before the first of them goes into the table. -/
def MadeInStages (sizes : List (Text × Int)) (t : MnemonicTable) : Prop :=
  ∃ hs, makeHandlers sizes = .ok hs ∧ MnemonicTable.ofHandlers hs = .ok t

/-- Keywords and sizes that the handlers of a table can have. -/
structure Tabular (sizes : List (Text × Int)) : Prop where
  keyword : ∀ e ∈ sizes, IsKeyword e.1
  size : ∀ e ∈ sizes, 0 ≤ e.2
  distinct : (sizes.map fun e => Text.foldCase e.1).Nodup

/-- The first thing that is wrong with an entry behind earlier ones. -/
inductive EntryFault (earlier : List (Text × Int)) : Text × Int → MnemonicError → Prop where
  | keyword {k : Text} {n : Int} : ¬IsKeyword k → EntryFault earlier (k, n) (.invalidKeyword k)
  | size {k : Text} {n : Int} : IsKeyword k → n < 0 → EntryFault earlier (k, n) (.negativeSize k n)
  | taken {k : Text} {n : Int} : IsKeyword k → 0 ≤ n →
    (∃ e ∈ earlier, Text.foldCase e.1 = Text.foldCase k) →
    EntryFault earlier (k, n) (.duplicateKeyword k)

/-- A table has a handler for each keyword, in order, and finds it by its keyword alone. -/
structure Indexes (sizes : Table Text Int) (t : MnemonicTable) : Prop where
  handlers : t.handlers.map keywordSize = sizes.entries
  keywords : t.keywords = sizes.keys
  found : ∀ q h, t.find? q = some h ↔ h ∈ t.handlers ∧ Text.foldCase h.keyword = Text.foldCase q
  unique : ∀ h ∈ t.handlers, ∀ r ∈ t.handlers,
    Text.foldCase h.keyword = Text.foldCase r.keyword → h = r
  missing : ∀ q, t.find? q = none ↔ ∀ h ∈ t.handlers, Text.foldCase h.keyword ≠ Text.foldCase q

section Steps

variable {t t' : MnemonicTable} {h : Handler} {k : Text} {n : Int}

lemma make_eq_ok_iff : Handler.make k n = .ok h ↔ keywordSize h = (k, n) := by
  rw [Handler.make, keywordSize, Prod.mk.injEq]
  by_cases hk : IsKeyword k
  · rw [dif_pos hk]
    cases n with
    | ofNat m =>
      constructor
      · rintro ⟨⟩
        exact ⟨rfl, rfl⟩
      · rintro ⟨hkeyword, hsize⟩
        have heq : (⟨k, m, hk⟩ : Handler) = h :=
          Handler.ext hkeyword.symm (Int.ofNat.inj hsize).symm
        exact congrArg Except.ok heq
    | negSucc m => exact iff_of_false (by simp) (by simp)
  · rw [dif_neg hk]
    refine iff_of_false (by simp) ?_
    rintro ⟨rfl, -⟩
    exact hk h.isKeyword

lemma make_eq_error_iff {e : MnemonicError} :
    Handler.make k n = .error e ↔
      ¬IsKeyword k ∧ e = .invalidKeyword k ∨ IsKeyword k ∧ n < 0 ∧ e = .negativeSize k n := by
  rw [Handler.make]
  by_cases hk : IsKeyword k
  · rw [dif_pos hk]
    cases n with
    | ofNat m =>
      have hsize : ¬Int.ofNat m < 0 := Int.not_lt.mpr (Int.natCast_nonneg m)
      simp only [hk, hsize, not_true_eq_false, false_and, and_false, or_self, reduceCtorEq]
    | negSucc m => simp [hk, eq_comm, Int.negSucc_lt_zero]
  · rw [dif_neg hk]
    simp [hk, eq_comm]

lemma add_eq_ok_iff : t.add h = .ok t' ↔ t'.handlers = t.handlers ++ [h] := by
  rw [MnemonicTable.add]
  split_ifs with htaken
  · refine iff_of_false (by simp) ?_
    intro hhandlers
    have hdistinct := t'.distinct
    rw [hhandlers, List.map_append] at hdistinct
    exact (List.nodup_append.mp hdistinct).2.2 _ htaken _ (by simp) rfl
  · constructor
    · rintro ⟨⟩
      rfl
    · intro hhandlers
      exact congrArg Except.ok (MnemonicTable.ext hhandlers.symm)

lemma add_eq_error_iff {e : MnemonicError} :
    t.add h = .error e ↔
      (∃ r ∈ t.handlers, Text.foldCase r.keyword = Text.foldCase h.keyword) ∧
        e = .duplicateKeyword h.keyword := by
  have hmem : h.key ∈ t.handlers.map Handler.key ↔
      ∃ r ∈ t.handlers, Text.foldCase r.keyword = Text.foldCase h.keyword := List.mem_map
  rw [MnemonicTable.add, ← hmem]
  split_ifs with htaken
  · simp [htaken, eq_comm]
  · simp [htaken]

end Steps

section Ways

variable {t t' : MnemonicTable} {sizes : List (Text × Int)}

lemma makeHandlers_cons_eq_ok_iff {k : Text} {n : Int} {hs : List Handler} :
    makeHandlers ((k, n) :: sizes) = .ok hs ↔
      ∃ h rest, Handler.make k n = .ok h ∧ makeHandlers sizes = .ok rest ∧ hs = h :: rest := by
  rw [makeHandlers]
  cases Handler.make k n with
  | error e => simp
  | ok h => cases makeHandlers sizes with
    | error e => simp
    | ok rest => simp [eq_comm]

lemma addAll_cons_eq_ok_iff {h : Handler} {hs : List Handler} :
    t.addAll (h :: hs) = .ok t' ↔ ∃ u, t.add h = .ok u ∧ u.addAll hs = .ok t' := by
  rw [MnemonicTable.addAll]
  cases t.add h with
  | error e => simp
  | ok u => simp

lemma addSizes_cons_eq_ok_iff {k : Text} {n : Int} :
    t.addSizes ((k, n) :: sizes) = .ok t' ↔
      ∃ h u, Handler.make k n = .ok h ∧ t.add h = .ok u ∧ u.addSizes sizes = .ok t' := by
  rw [MnemonicTable.addSizes]
  cases Handler.make k n with
  | error e => simp
  | ok h => cases hadd : t.add h with
    | error e => simp [hadd]
    | ok u => simp [hadd]

/-- Making handlers one by one or all at once comes to the same table. -/
theorem addSizes_eq_ok_iff :
    t.addSizes sizes = .ok t' ↔ ∃ hs, makeHandlers sizes = .ok hs ∧ t.addAll hs = .ok t' := by
  induction sizes generalizing t with
  | nil => simp [MnemonicTable.addSizes, makeHandlers, MnemonicTable.addAll]
  | cons e sizes ih =>
    rw [addSizes_cons_eq_ok_iff]
    constructor
    · rintro ⟨h, u, hmake, hadd, hrest⟩
      obtain ⟨rest, hmade, hall⟩ := ih.mp hrest
      exact ⟨h :: rest, makeHandlers_cons_eq_ok_iff.mpr ⟨h, rest, hmake, hmade, rfl⟩,
        addAll_cons_eq_ok_iff.mpr ⟨u, hadd, hall⟩⟩
    · rintro ⟨hs, hmade, hall⟩
      obtain ⟨h, rest, hmake, hrest, rfl⟩ := makeHandlers_cons_eq_ok_iff.mp hmade
      obtain ⟨u, hadd, hlater⟩ := addAll_cons_eq_ok_iff.mp hall
      exact ⟨h, u, hmake, hadd, ih.mpr ⟨rest, hrest, hlater⟩⟩

lemma makeHandlers_eq_ok_iff {hs : List Handler} :
    makeHandlers sizes = .ok hs ↔ hs.map keywordSize = sizes := by
  induction sizes generalizing hs with
  | nil => simp [makeHandlers, eq_comm]
  | cons e sizes ih =>
    rw [makeHandlers_cons_eq_ok_iff, List.map_eq_cons_iff]
    simp only [make_eq_ok_iff, ih]
    constructor
    · rintro ⟨h, rest, hentry, hrest, rfl⟩
      exact ⟨h, rest, rfl, hentry, hrest⟩
    · rintro ⟨h, rest, rfl, hentry, hrest⟩
      exact ⟨h, rest, hentry, hrest, rfl⟩

lemma addAll_eq_ok_iff {hs : List Handler} :
    t.addAll hs = .ok t' ↔ t'.handlers = t.handlers ++ hs := by
  induction hs generalizing t with
  | nil =>
    rw [MnemonicTable.addAll, List.append_nil]
    exact ⟨by rintro ⟨⟩; rfl, fun h => congrArg Except.ok (MnemonicTable.ext h.symm)⟩
  | cons h hs ih =>
    rw [addAll_cons_eq_ok_iff]
    constructor
    · rintro ⟨u, hadd, hall⟩
      rw [ih.mp hall, add_eq_ok_iff.mp hadd, List.append_assoc, List.singleton_append]
    · intro hhandlers
      have hdistinct := t'.distinct
      rw [hhandlers, List.append_cons, List.map_append] at hdistinct
      let u : MnemonicTable := ⟨t.handlers ++ [h], hdistinct.of_append_left⟩
      refine ⟨u, add_eq_ok_iff.mpr rfl, ih.mpr ?_⟩
      rw [hhandlers, List.append_cons]

theorem addSizes_empty_eq_ok_iff :
    MnemonicTable.addSizes {} sizes = .ok t ↔ t.handlers.map keywordSize = sizes := by
  rw [addSizes_eq_ok_iff]
  simp only [makeHandlers_eq_ok_iff, addAll_eq_ok_iff, List.nil_append]
  constructor
  · rintro ⟨hs, hentries, rfl⟩
    exact hentries
  · intro hentries
    exact ⟨t.handlers, hentries, rfl⟩

lemma addSizes_append {before after : List (Text × Int)} (h : t.addSizes before = .ok t') :
    t.addSizes (before ++ after) = t'.addSizes after := by
  induction before generalizing t with
  | nil =>
    obtain rfl := Except.ok.inj h
    rfl
  | cons e before ih =>
    obtain ⟨r, u, hmake, hadd, hrest⟩ := addSizes_cons_eq_ok_iff.mp h
    rw [List.cons_append, MnemonicTable.addSizes, hmake]
    simp only [hadd]
    exact ih hrest

end Ways

section Faults

variable {t : MnemonicTable} {sizes : List (Text × Int)}

lemma exists_handlers (hkeyword : ∀ e ∈ sizes, IsKeyword e.1) (hsize : ∀ e ∈ sizes, 0 ≤ e.2) :
    ∃ hs : List Handler, hs.map keywordSize = sizes := by
  induction sizes with
  | nil => exact ⟨[], rfl⟩
  | cons e sizes ih =>
    obtain ⟨hk, hkeyword⟩ := List.forall_mem_cons.mp hkeyword
    obtain ⟨hn, hsize⟩ := List.forall_mem_cons.mp hsize
    obtain ⟨hs, rfl⟩ := ih hkeyword hsize
    refine ⟨⟨e.1, e.2.toNat, hk⟩ :: hs, ?_⟩
    rw [List.map_cons, keywordSize, Int.toNat_of_nonneg hn]

lemma keys_of_entries (hs : List Handler) :
    (hs.map keywordSize).map (fun e => Text.foldCase e.1) = hs.map Handler.key := by
  rw [List.map_map]
  rfl

theorem tabular_iff : Tabular sizes ↔ ∃ t : MnemonicTable, t.handlers.map keywordSize = sizes := by
  constructor
  · rintro ⟨hkeyword, hsize, hdistinct⟩
    obtain ⟨hs, rfl⟩ := exists_handlers hkeyword hsize
    rw [keys_of_entries] at hdistinct
    exact ⟨⟨hs, hdistinct⟩, rfl⟩
  · rintro ⟨t, rfl⟩
    refine ⟨?_, ?_, ?_⟩
    · intro e he
      obtain ⟨h, -, rfl⟩ := List.mem_map.mp he
      exact h.isKeyword
    · intro e he
      obtain ⟨h, -, rfl⟩ := List.mem_map.mp he
      exact Int.natCast_nonneg h.size
    · rw [keys_of_entries]
      exact t.distinct

theorem addSizes_of_fault {entry : Text × Int} {e : MnemonicError}
    (h : EntryFault (t.handlers.map keywordSize) entry e) (after : List (Text × Int)) :
    t.addSizes (entry :: after) = .error e := by
  cases h with
  | keyword hk =>
    rw [MnemonicTable.addSizes, make_eq_error_iff.mpr (Or.inl ⟨hk, rfl⟩)]
  | size hk hn =>
    rw [MnemonicTable.addSizes, make_eq_error_iff.mpr (Or.inr ⟨hk, hn, rfl⟩)]
  | @taken k n hk hn htaken =>
    obtain ⟨_, hmem, hkey⟩ := htaken
    obtain ⟨r, hr, rfl⟩ := List.mem_map.mp hmem
    have hmake : Handler.make k n = .ok ⟨k, n.toNat, hk⟩ := by
      rw [make_eq_ok_iff, keywordSize, Int.toNat_of_nonneg hn]
    have hadd : t.add ⟨k, n.toNat, hk⟩ = .error (.duplicateKeyword k) :=
      add_eq_error_iff.mpr ⟨⟨r, hr, hkey⟩, rfl⟩
    rw [MnemonicTable.addSizes, hmake]
    simp only [hadd]

/-- A refusal is due to the fault of an entry that stands behind those of a table. -/
theorem exists_fault {e : MnemonicError} (h : t.addSizes sizes = .error e) :
    ∃ before entry after t', sizes = before ++ entry :: after ∧ t.addSizes before = .ok t' ∧
      EntryFault (t'.handlers.map keywordSize) entry e := by
  induction sizes generalizing t with
  | nil => cases h
  | cons entry sizes ih =>
    obtain ⟨k, n⟩ := entry
    rw [MnemonicTable.addSizes] at h
    cases hmake : Handler.make k n with
    | error first =>
      rw [hmake] at h
      obtain rfl := Except.error.inj h
      refine ⟨[], (k, n), sizes, t, rfl, rfl, ?_⟩
      rcases make_eq_error_iff.mp hmake with ⟨hk, rfl⟩ | ⟨hk, hn, rfl⟩
      · exact .keyword hk
      · exact .size hk hn
    | ok handler =>
      rw [hmake] at h
      have hentry := make_eq_ok_iff.mp hmake
      cases hadd : t.add handler with
      | error first =>
        simp only [hadd] at h
        obtain rfl := Except.error.inj h
        obtain ⟨⟨r, hr, hkey⟩, rfl⟩ := add_eq_error_iff.mp hadd
        obtain ⟨rfl, rfl⟩ := Prod.mk.inj hentry
        refine ⟨[], keywordSize handler, sizes, t, rfl, rfl, ?_⟩
        exact .taken handler.isKeyword (Int.natCast_nonneg _)
          ⟨keywordSize r, List.mem_map_of_mem hr, hkey⟩
      | ok u =>
        simp only [hadd] at h
        obtain ⟨before, entry, after, t', rfl, hbefore, hfault⟩ := ih h
        refine ⟨(k, n) :: before, entry, after, t', rfl, ?_, hfault⟩
        exact addSizes_cons_eq_ok_iff.mpr ⟨handler, u, hmake, hadd, hbefore⟩

theorem addSizes_eq_error_iff {e : MnemonicError} :
    MnemonicTable.addSizes {} sizes = .error e ↔ ∃ before entry after,
      sizes = before ++ entry :: after ∧ Tabular before ∧ EntryFault before entry e := by
  constructor
  · intro h
    obtain ⟨before, entry, after, t, hsplit, hbefore, hfault⟩ := exists_fault h
    have hentries := addSizes_empty_eq_ok_iff.mp hbefore
    rw [hentries] at hfault
    exact ⟨before, entry, after, hsplit, tabular_iff.mpr ⟨t, hentries⟩, hfault⟩
  · rintro ⟨before, entry, after, rfl, htabular, hfault⟩
    obtain ⟨t, rfl⟩ := tabular_iff.mp htabular
    rw [addSizes_append (addSizes_empty_eq_ok_iff.mpr rfl)]
    exact addSizes_of_fault hfault after

end Faults

lemma indexes_of_entries {sizes : Table Text Int} {t : MnemonicTable}
    (h : t.handlers.map keywordSize = sizes.entries) : Indexes sizes t := by
  have hkeywords : t.keywords = sizes.keys := by
    rw [Table.keys, ← h, List.map_map]
    rfl
  refine ⟨h, hkeywords, mnemonic_find?_eq_some_iff t, ?_, mnemonic_find?_eq_none_iff t⟩
  intro r hr r' hr' hkey
  exact List.inj_on_of_nodup_map t.distinct hr hr' hkey

/-- Sizes make a table just when their keywords and sizes are sound and no two keywords differ only
in case. Handlers that are all made first lead to the same table, an index of the keywords in order.
If there is none, the first faulty entry decides what the error is. -/
theorem sizes_make_one_table (sizes : Table Text Int) :
    ((∃ t, MnemonicTable.ofSizes sizes = .ok t) ↔ Tabular sizes.entries) ∧
      (∀ t, MnemonicTable.ofSizes sizes = .ok t ↔ MadeInStages sizes.entries t) ∧
      (∀ t, MnemonicTable.ofSizes sizes = .ok t → Indexes sizes t) ∧
      ∀ e, MnemonicTable.ofSizes sizes = .error e ↔ ∃ before entry after,
        sizes.entries = before ++ entry :: after ∧ Tabular before ∧ EntryFault before entry e := by
  have hentries : ∀ t, MnemonicTable.ofSizes sizes = .ok t ↔
      t.handlers.map keywordSize = sizes.entries := fun t => addSizes_empty_eq_ok_iff
  refine ⟨?_, fun t => addSizes_eq_ok_iff, ?_, fun e => addSizes_eq_error_iff⟩
  · rw [tabular_iff]
    exact exists_congr hentries
  · intro t h
    exact indexes_of_entries ((hentries t).mp h)

/-- A keyword that is longer when it is folded, and a size of zero. -/
theorem three_sizes_make_table :
    let sizes : Table Text Int :=
      Table.ofList [("Straße".toList, 1), ("mov".toList, 4), ("db".toList, 0)]
    ∃ t, MnemonicTable.ofSizes sizes = .ok t ∧ Indexes sizes t := by
  intro sizes
  have htabular : Tabular sizes.entries :=
    ⟨by decide +kernel, by decide +kernel, by decide +kernel⟩
  obtain ⟨t, h⟩ := (sizes_make_one_table sizes).1.mpr htabular
  exact ⟨t, h, (sizes_make_one_table sizes).2.2.1 t h⟩

/-- Where several entries are faulty the two ways may tell of different ones. -/
example :
    let sizes : Table Text Int := Table.ofList [(['a'], 1), (['A'], 2), (['b', ' '], 3)]
    MnemonicTable.ofSizes sizes = .error (.duplicateKeyword ['A']) ∧
      makeHandlers sizes.entries = .error (.invalidKeyword ['b', ' ']) := by
  decide +kernel

end OnePass.Proofs
