import Mathlib.Data.List.Nodup
import OnePass.Mnemonic.Table
import OnePass.Symbol.Table

/-!
# Lookups in tables

Symbols and mnemonics are looked up by a key that no two entries of a table share. A lookup
therefore finds the one entry with the key, wherever it stands, and a declaration either meets that
entry or goes to the end of the table.
-/

namespace OnePass.Proofs

section Keys

variable {α κ : Type} [DecidableEq κ] {key : α → κ} {l : List α}

lemma find?_key_eq_none_iff (k : κ) :
    (l.find? fun x => decide (key x = k)) = none ↔ ∀ x ∈ l, key x ≠ k := by
  simp [List.find?_eq_none]

lemma find?_key_eq_some_iff (distinct : (l.map key).Nodup) (k : κ) (x : α) :
    (l.find? fun y => decide (key y = k)) = some x ↔ x ∈ l ∧ key x = k := by
  have found : ∀ y, (l.find? fun y => decide (key y = k)) = some y → y ∈ l ∧ key y = k := by
    intro y hy
    exact ⟨List.mem_of_find?_eq_some hy, by simpa using List.find?_some hy⟩
  refine ⟨found x, fun ⟨hx, hk⟩ => ?_⟩
  cases hf : l.find? fun y => decide (key y = k) with
  | none => exact absurd hk ((find?_key_eq_none_iff k).mp hf x hx)
  | some y =>
    obtain ⟨hy, hyk⟩ := found y hf
    rw [List.inj_on_of_nodup_map distinct hy hx (hyk.trans hk.symm)]

end Keys

theorem symbol_find?_eq_none_iff (t : SymbolTable) (name : Text) :
    t.find? name = none ↔ ∀ s ∈ t.symbols, Text.foldCase s.name ≠ Text.foldCase name := by
  rw [SymbolTable.find?_eq]
  exact find?_key_eq_none_iff _

theorem symbol_find?_eq_some_iff (t : SymbolTable) (name : Text) (s : Symbol) :
    t.find? name = some s ↔ s ∈ t.symbols ∧ Text.foldCase s.name = Text.foldCase name := by
  rw [SymbolTable.find?_eq]
  exact find?_key_eq_some_iff t.distinct _ s

theorem mnemonic_find?_eq_none_iff (t : MnemonicTable) (keyword : Text) :
    t.find? keyword = none ↔ ∀ h ∈ t.handlers, Text.foldCase h.keyword ≠ Text.foldCase keyword :=
  find?_key_eq_none_iff _

theorem mnemonic_find?_eq_some_iff (t : MnemonicTable) (keyword : Text) (h : Handler) :
    t.find? keyword = some h ↔
      h ∈ t.handlers ∧ Text.foldCase h.keyword = Text.foldCase keyword :=
  find?_key_eq_some_iff t.distinct _ h

theorem insert_of_taken {t : SymbolTable} {d : Declaration} {s : Symbol}
    (h : t.find? d.name = some s) :
    t.insert d = .error ⟨.duplicateLabel d.name (some s.location), some d.symbol.location, none⟩ := by
  unfold SymbolTable.insert
  split
  · rename_i s' hs'
    have he : s' = s := Option.some.inj (hs'.symm.trans h)
    rw [he]
  · rename_i hn
    exact absurd (hn.symm.trans h) (by simp)

theorem insert_of_new {t : SymbolTable} {d : Declaration} (h : t.find? d.name = none) :
    ∃ t', t.insert d = .ok t' ∧ t'.symbols = t.symbols ++ [d.symbol] := by
  unfold SymbolTable.insert
  split
  · rename_i s hs
    exact absurd (hs.symm.trans h) (by simp)
  · exact ⟨_, rfl, rfl⟩

end OnePass.Proofs
