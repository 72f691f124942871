import Mathlib.Data.List.Induction
import OnePass.Proofs.TableLookup

/-!
# The history of a symbol table

A symbol table is what remains of a history of declarations, of which some were refused. It lists
the others in order, its index by folded names finds every one of them, and no two of them share an
entry of that index or of the table of offsets. A declaration is refused just when an earlier one
that was not refused has its name, and then it leaves no trace.
-/

namespace OnePass.Proofs

/-- A table after a declaration, which changes nothing if it is refused. -/
def afterDeclaration (t : SymbolTable) (d : Declaration) : SymbolTable :=
  match t.insert d with
  | .ok t' => t'
  | .error _ => t

/-- A table after some declarations, whatever became of each of them. -/
def afterDeclarations (t : SymbolTable) (history : List Declaration) : SymbolTable :=
  history.foldl afterDeclaration t

/-- The declarations that are not refused. -/
def admitted (t : SymbolTable) : List Declaration → List Declaration
  | [] => []
  | d :: history =>
    match t.insert d with
    | .ok t' => d :: admitted t' history
    | .error _ => admitted t history

/-- A table is the list of the admitted declarations, and all its views agree with this list. -/
structure Records (history : List Declaration) (t : SymbolTable) : Prop where
  symbols : t.symbols = (admitted {} history).map fun d =>
    { name := d.name
      offset := d.offset
      line := d.line
      location := d.location.getD ⟨"<input>", d.line⟩ }
  found : ∀ name s, t.find? name = some s ↔
    s ∈ t.symbols ∧ Text.foldCase s.name = Text.foldCase name
  unique : ∀ s ∈ t.symbols, ∀ r ∈ t.symbols, Text.foldCase s.name = Text.foldCase r.name → s = r
  missing : ∀ name, t.find? name = none ↔
    ∀ s ∈ t.symbols, Text.foldCase s.name ≠ Text.foldCase name
  size : t.size = t.symbols.length
  keys : t.keys.Nodup ∧ t.keys.length = t.size
  indexed : t.index.entries = t.symbols.map fun s => (Text.foldCase s.name, s)
  offsets : t.offsets.entries = t.symbols.map fun s => (s.name, s.offset)
  offsets_size : t.offsets.size = t.size

/-- What becomes of one more declaration. -/
structure Answers (history : List Declaration) (t : SymbolTable) (d : Declaration) : Prop where
  refused_iff : (∃ e, t.insert d = .error e) ↔
    ∃ first ∈ admitted {} history, Text.foldCase first.name = Text.foldCase d.name
  refusal : ∀ first ∈ admitted {} history, Text.foldCase first.name = Text.foldCase d.name →
    t.insert d = .error
      ⟨.duplicateLabel d.name (some (first.location.getD ⟨"<input>", first.line⟩)),
        some (d.location.getD ⟨"<input>", d.line⟩), none⟩
  unchanged : ∀ e, t.insert d = .error e → afterDeclarations {} (history ++ [d]) = t
  accepted : ∀ t', t.insert d = .ok t' → afterDeclarations {} (history ++ [d]) = t'

section Tables

variable {α β : Type} [DecidableEq α]

theorem entries_ofList {l : List (α × β)} (h : (l.map Prod.fst).Nodup) :
    (Table.ofList l).entries = l := by
  induction l using List.reverseRecOn with
  | nil => rfl
  | append_singleton l e ih =>
    rw [List.map_append] at h
    have hl := ih h.of_append_left
    have hnew : e.1 ∉ (Table.ofList l).entries.map Prod.fst := by
      rw [hl]
      intro hmem
      exact (List.nodup_append.mp h).2.2 _ hmem _ (by simp) rfl
    have hstep : Table.ofList (l ++ [e]) = (Table.ofList l).insert e.1 e.2 := by
      simp only [Table.ofList, List.foldl_append, List.foldl_cons, List.foldl_nil]
    rw [hstep]
    calc ((Table.ofList l).insert e.1 e.2).entries
      _ = (Table.ofList l).entries ++ [e] := Table.write_of_new hnew
      _ = l ++ [e] := by rw [hl]

end Tables

lemma entries_offsets (t : SymbolTable) :
    t.offsets.entries = t.symbols.map fun s => (s.name, s.offset) := by
  apply entries_ofList
  rw [List.map_map]
  have hfolded : ((t.symbols.map Symbol.name).map Text.foldCase).Nodup := by
    rw [List.map_map]
    exact t.distinct
  exact hfolded.of_map Text.foldCase

lemma afterDeclarations_snoc (t : SymbolTable) (history : List Declaration) (d : Declaration) :
    afterDeclarations t (history ++ [d]) = afterDeclaration (afterDeclarations t history) d := by
  rw [afterDeclarations, List.foldl_append]
  rfl

theorem symbols_afterDeclarations (t : SymbolTable) (history : List Declaration) :
    (afterDeclarations t history).symbols =
      t.symbols ++ (admitted t history).map Declaration.symbol := by
  induction history generalizing t with
  | nil => simp [afterDeclarations, admitted]
  | cons d history ih =>
    have hstep : afterDeclarations t (d :: history) =
        afterDeclarations (afterDeclaration t d) history := rfl
    rw [hstep, ih, afterDeclaration, admitted]
    cases hf : t.find? d.name with
    | some s =>
      rw [insert_of_taken hf]
    | none =>
      obtain ⟨t', hi, hs⟩ := insert_of_new hf
      rw [hi]
      simp only [hs, List.map_cons, List.append_assoc, List.singleton_append]

lemma records_afterDeclarations (history : List Declaration) :
    Records history (afterDeclarations {} history) := by
  have hsymbols := symbols_afterDeclarations {} history
  generalize afterDeclarations {} history = t at hsymbols
  have hkeys : t.keys.length = t.size := by
    rw [t.keys_eq, List.length_map]
    rfl
  refine ⟨hsymbols, symbol_find?_eq_some_iff t, ?_, symbol_find?_eq_none_iff t, rfl,
    ⟨t.index.nodup, hkeys⟩, t.indexed, entries_offsets t, ?_⟩
  · intro s hs r hr h
    exact List.inj_on_of_nodup_map t.distinct hs hr h
  · rw [Table.size, entries_offsets, List.length_map]
    rfl

lemma answers_afterDeclarations (history : List Declaration) (d : Declaration) :
    Answers history (afterDeclarations {} history) d := by
  have hsymbols : (afterDeclarations {} history).symbols =
      (admitted {} history).map Declaration.symbol := symbols_afterDeclarations {} history
  have hsnoc := afterDeclarations_snoc {} history d
  generalize afterDeclarations {} history = t at hsymbols hsnoc
  have hrefusal : ∀ first ∈ admitted {} history,
      Text.foldCase first.name = Text.foldCase d.name →
      t.insert d = .error
        ⟨.duplicateLabel d.name (some first.symbol.location), some d.symbol.location, none⟩ := by
    intro first hmem hkey
    apply insert_of_taken
    rw [symbol_find?_eq_some_iff, hsymbols]
    exact ⟨List.mem_map_of_mem hmem, hkey⟩
  refine ⟨⟨?_, ?_⟩, hrefusal, ?_, ?_⟩
  · rintro ⟨e, he⟩
    cases hf : t.find? d.name with
    | none =>
      obtain ⟨t', hi, -⟩ := insert_of_new hf
      rw [hi] at he
      cases he
    | some s =>
      obtain ⟨hs, hkey⟩ := (symbol_find?_eq_some_iff t d.name s).mp hf
      rw [hsymbols] at hs
      obtain ⟨first, hmem, rfl⟩ := List.mem_map.mp hs
      exact ⟨first, hmem, hkey⟩
  · rintro ⟨first, hmem, hkey⟩
    exact ⟨_, hrefusal first hmem hkey⟩
  · intro e he
    rw [hsnoc, afterDeclaration, he]
  · intro t' ht
    rw [hsnoc, afterDeclaration, ht]

/-- A symbol table refines the list of its admitted declarations, after any history of them, and
the next declaration is answered by this list alone. -/
theorem table_records_history (history : List Declaration) :
    Records history (afterDeclarations {} history) ∧
      ∀ d, Answers history (afterDeclarations {} history) d :=
  ⟨records_afterDeclarations history, answers_afterDeclarations history⟩

end OnePass.Proofs
