import OnePass.Table
import OnePass.Text.CaseFold
import OnePass.Text.Quoted

/-!
# Mnemonic tables

The mnemonics that a run knows, each with the amount by which it advances the address. Keywords
that differ only in case are the same keyword.
-/

namespace OnePass

inductive MnemonicError where
  | invalidKeyword (keyword : Text)
  | negativeSize (keyword : Text) (size : Int)
  | duplicateKeyword (keyword : Text)
deriving DecidableEq, Repr

def MnemonicError.message : MnemonicError → Text
  | .invalidKeyword keyword => "invalid mnemonic keyword " ++ Text.quoted keyword
  | .negativeSize keyword size =>
    "mnemonic '" ++ keyword ++ "' has negative size " ++ Text.ofInt size
  | .duplicateKeyword keyword => "duplicate mnemonic keyword '" ++ keyword ++ "'"

/-- A keyword is a text that can stand as a field: it is not empty and holds no blank. -/
def IsKeyword (s : Text) : Prop := s ≠ [] ∧ ∀ c ∈ s, Text.isBlank c = false

def isKeyword : Text → Bool
  | [] => false
  | c :: s => (c :: s).all fun d => !Text.isBlank d

theorem isKeyword_iff (s : Text) : isKeyword s = true ↔ IsKeyword s := by
  cases s <;> simp [isKeyword, IsKeyword]

instance (s : Text) : Decidable (IsKeyword s) :=
  decidable_of_decidable_of_iff (isKeyword_iff s)

/-- A mnemonic and the amount by which it advances the address. -/
structure Handler where
  keyword : Text
  size : Nat
  isKeyword : IsKeyword keyword
deriving DecidableEq, Repr

namespace Handler

@[ext] theorem ext {h r : Handler} (keyword : h.keyword = r.keyword) (size : h.size = r.size) :
    h = r := by
  cases h
  cases r
  cases keyword
  cases size
  rfl

/-- The form of the keyword that comparisons use. -/
def key (h : Handler) : Text := Text.foldCase h.keyword

/-- The handler for a keyword of a given size. The keyword is checked before the size. -/
def make (keyword : Text) (size : Int) : Except MnemonicError Handler :=
  if h : IsKeyword keyword then
    match size with
    | .ofNat n => .ok ⟨keyword, n, h⟩
    | .negSucc _ => .error (.negativeSize keyword size)
  else .error (.invalidKeyword keyword)

end Handler

/-- Handlers in a fixed order, no two with the same keyword up to case. -/
structure MnemonicTable where
  handlers : List Handler := []
  distinct : (handlers.map Handler.key).Nodup := by simp
deriving DecidableEq, Repr

namespace MnemonicTable

@[ext] theorem ext {t t' : MnemonicTable} (handlers : t.handlers = t'.handlers) : t = t' := by
  cases t
  cases t'
  cases handlers
  rfl

def size (t : MnemonicTable) : Nat := t.handlers.length

def keywords (t : MnemonicTable) : List Text := t.handlers.map Handler.keyword

def find? (t : MnemonicTable) (keyword : Text) : Option Handler :=
  t.handlers.find? fun h => h.key = Text.foldCase keyword

/-- A handler goes to the end of the table, unless its keyword is taken. -/
def add (t : MnemonicTable) (h : Handler) : Except MnemonicError MnemonicTable :=
  if new : h.key ∈ t.handlers.map Handler.key then .error (.duplicateKeyword h.keyword)
  else .ok
    { handlers := t.handlers ++ [h]
      distinct := by
        rw [List.map_append]
        exact nodup_append_singleton t.distinct new }

def addAll (t : MnemonicTable) : List Handler → Except MnemonicError MnemonicTable
  | [] => .ok t
  | h :: hs => match t.add h with
    | .ok t' => t'.addAll hs
    | .error e => .error e

def ofHandlers (hs : List Handler) : Except MnemonicError MnemonicTable := addAll {} hs

/-- Makes a handler for each keyword and size and adds it, before going on to the next. -/
def addSizes (t : MnemonicTable) : List (Text × Int) → Except MnemonicError MnemonicTable
  | [] => .ok t
  | (keyword, size) :: rest => match Handler.make keyword size with
    | .ok h => match t.add h with
      | .ok t' => t'.addSizes rest
      | .error e => .error e
    | .error e => .error e

/-- The table of the handlers for some keywords and their sizes. -/
def ofSizes (sizes : Table Text Int) : Except MnemonicError MnemonicTable :=
  addSizes {} sizes.entries

end MnemonicTable

/-- The handlers for a list of keywords and sizes, all made before any table is built. -/
def makeHandlers : List (Text × Int) → Except MnemonicError (List Handler)
  | [] => .ok []
  | (keyword, size) :: rest => match Handler.make keyword size with
    | .ok h => match makeHandlers rest with
      | .ok hs => .ok (h :: hs)
      | .error e => .error e
    | .error e => .error e

inductive Mnemonic where
  | db
  | equ
  | global
  | int
  | mov
  | sect
deriving DecidableEq, Repr

namespace Mnemonic

/-- All mnemonics, in the order of the default table. -/
def all : List Mnemonic := [db, equ, global, int, mov, sect]

def keyword : Mnemonic → Text
  | db => ['d', 'b']
  | equ => ['e', 'q', 'u']
  | global => ['g', 'l', 'o', 'b', 'a', 'l']
  | int => ['i', 'n', 't']
  | mov => ['m', 'o', 'v']
  | sect => ['s', 'e', 'c', 't', 'i', 'o', 'n']

/-- The amount by which a mnemonic advances the address. -/
def size : Mnemonic → Nat
  | db => 1
  | equ => 2
  | global => 0
  | int => 3
  | mov => 4
  | sect => 0

def handler (m : Mnemonic) : Handler := ⟨m.keyword, m.size, by cases m <;> decide⟩

end Mnemonic

def MnemonicTable.standard : MnemonicTable := ⟨Mnemonic.all.map Mnemonic.handler, by decide⟩

end OnePass
