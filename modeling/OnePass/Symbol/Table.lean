import OnePass.Diagnostic
import OnePass.Table
import OnePass.Text.CaseFold

/-!
# Symbol tables

The labels declared in a source, each with the address it stands for, in the order of declaration.
Names that differ only in case are the same name. A table only grows, and it keeps an index of the
names besides the list of its symbols.
-/

namespace OnePass

/-- A declared label. -/
structure Symbol where
  /-- The name as written, without the label mark. -/
  name : Text
  /-- The address at the declaration. -/
  offset : Int
  /-- The number of the line of the declaration. -/
  line : Int
  location : Location
deriving DecidableEq, Repr

/-- The form of the name that comparisons use. -/
def Symbol.key (s : Symbol) : Text := Text.foldCase s.name

/-- Symbols in order of declaration, and an index of them by the form of their names that comparisons
use. The index agrees with the list, so no two symbols have the same name up to case. -/
structure SymbolTable where
  symbols : List Symbol := []
  index : Table Text Symbol := Table.empty
  indexed : index.entries = symbols.map (fun s => (s.key, s)) := by rfl
deriving DecidableEq, Repr

/-- What a declaration is made of; a missing location stands for the line of a nameless input. -/
structure Declaration where
  name : Text
  line : Int
  offset : Int
  location : Option Location := none
deriving DecidableEq, Repr

def Declaration.symbol (d : Declaration) : Symbol where
  name := d.name
  offset := d.offset
  line := d.line
  location := d.location.getD ⟨"<input>", d.line⟩

namespace SymbolTable

@[ext] theorem ext {t t' : SymbolTable} (symbols : t.symbols = t'.symbols) : t = t' := by
  have index : t.index = t'.index := Table.ext (by rw [t.indexed, t'.indexed, symbols])
  cases t
  cases t'
  cases symbols
  cases index
  rfl

def size (t : SymbolTable) : Nat := t.symbols.length

/-- The names in the form that comparisons use, in order of declaration. -/
def keys (t : SymbolTable) : List Text := t.index.keys

theorem keys_eq (t : SymbolTable) : t.keys = t.symbols.map Symbol.key := by
  rw [keys, Table.keys, t.indexed, List.map_map]
  rfl

theorem distinct (t : SymbolTable) : (t.symbols.map Symbol.key).Nodup := by
  rw [← keys_eq]
  exact t.index.nodup

/-- The symbol with a given name, up to case. -/
def find? (t : SymbolTable) (name : Text) : Option Symbol := t.index.find? (Text.foldCase name)

/-- A lookup in the index finds what a search of the list does. -/
theorem find?_eq (t : SymbolTable) (name : Text) :
    t.find? name = t.symbols.find? fun s => s.key = Text.foldCase name := by
  rw [find?, Table.find?, t.indexed, List.find?_map, Option.map_map]
  exact Option.map_id'

/-- A symbol whose name is new goes to the end of the list and of the index. -/
def push (t : SymbolTable) (s : Symbol) (new : s.key ∉ t.keys) : SymbolTable where
  symbols := t.symbols ++ [s]
  index := t.index.insert s.key s
  indexed := by
    rw [List.map_append, ← t.indexed]
    exact Table.write_of_new new

theorem key_not_mem_keys {t : SymbolTable} {s : Symbol} (h : t.find? s.name = none) :
    s.key ∉ t.keys := by
  rw [keys_eq]
  rw [find?_eq] at h
  intro hm
  obtain ⟨r, hr, hk⟩ := List.mem_map.mp hm
  have hne := List.find?_eq_none.mp h r hr
  exact hne (decide_eq_true hk)

/-- Declares a label, unless its name is declared already. -/
def insert (t : SymbolTable) (d : Declaration) : Except Diagnostic SymbolTable :=
  match h : t.find? d.symbol.name with
  | some s =>
    .error ⟨.duplicateLabel d.name (some s.location), some d.symbol.location, none⟩
  | none => .ok (t.push d.symbol (key_not_mem_keys h))

def offsets (t : SymbolTable) : Table Text Int :=
  Table.ofList (t.symbols.map fun s => (s.name, s.offset))

end SymbolTable

/-- A walk over a table that may grow meanwhile: how many symbols it has yielded, or nothing once it
has come to an end. -/
structure Cursor where
  position : Option Nat := some 0
deriving DecidableEq, Repr

/-- One step of a walk over the table as it is now. A walk that finds no further symbol has ended
for good. -/
def Cursor.next (c : Cursor) (t : SymbolTable) : Option Symbol × Cursor :=
  match c.position with
  | none => (none, c)
  | some n => match t.symbols[n]? with
    | some s => (some s, ⟨some (n + 1)⟩)
    | none => (none, ⟨none⟩)

end OnePass
