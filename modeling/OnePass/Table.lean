/-!
# Ordered tables

A table of keys with a value each, in the order in which the keys first arrived. Writing to a key
that is present changes its value and moves nothing.
-/

namespace OnePass

/-- Keys without repetition stay so when a new one goes to the end. -/
theorem nodup_append_singleton {α : Type} {keys : List α} {k : α} (h : keys.Nodup)
    (new : k ∉ keys) : (keys ++ [k]).Nodup := by
  rw [List.nodup_append]
  refine ⟨h, by simp, ?_⟩
  intro a ha b hb hab
  rw [List.mem_singleton] at hb
  rw [hab, hb] at ha
  exact new ha

/-- A list of keys with their values, in order of arrival and without repeated keys. -/
structure Table (α β : Type) where
  entries : List (α × β)
  nodup : (entries.map Prod.fst).Nodup
deriving DecidableEq, Repr

namespace Table

variable {α β : Type}

@[ext] theorem ext {t t' : Table α β} (entries : t.entries = t'.entries) : t = t' := by
  cases t
  cases t'
  cases entries
  rfl

def empty : Table α β := ⟨[], by simp⟩

def keys (t : Table α β) : List α := t.entries.map Prod.fst

def size (t : Table α β) : Nat := t.entries.length

variable [DecidableEq α]

def find? (t : Table α β) (k : α) : Option β :=
  (t.entries.find? fun e => e.1 = k).map Prod.snd

/-- Writes to a key in a list of entries: in place if the key is there, else at the end. -/
def write (k : α) (v : β) : List (α × β) → List (α × β)
  | [] => [(k, v)]
  | e :: es => if e.1 = k then (k, v) :: es else e :: write k v es

/-- Writing keeps the keys, and adds the one written if it was not there. -/
theorem map_fst_write (k : α) (v : β) (es : List (α × β)) :
    (write k v es).map Prod.fst =
      if k ∈ es.map Prod.fst then es.map Prod.fst else es.map Prod.fst ++ [k] := by
  induction es with
  | nil => simp [write]
  | cons e es ih =>
    by_cases h : e.1 = k
    · simp [write, h]
    · have h' : ¬k = e.1 := fun hk => h hk.symm
      simp only [write, h, if_false, List.map_cons, ih, List.mem_cons, h', false_or]
      split <;> simp

theorem write_of_new {k : α} {v : β} {es : List (α × β)} (h : k ∉ es.map Prod.fst) :
    write k v es = es ++ [(k, v)] := by
  induction es with
  | nil => rfl
  | cons e es ih =>
    rw [List.map_cons, List.mem_cons, not_or] at h
    have hne : e.1 ≠ k := fun he => h.1 he.symm
    rw [write, if_neg hne, ih h.2, List.cons_append]

/-- Sets the value of a key. -/
def insert (t : Table α β) (k : α) (v : β) : Table α β where
  entries := write k v t.entries
  nodup := by
    rw [map_fst_write]
    split
    · exact t.nodup
    · rename_i new
      exact nodup_append_singleton t.nodup new

/-- The table that results from writing the given entries one after the other. -/
def ofList (l : List (α × β)) : Table α β :=
  l.foldl (fun t e => t.insert e.1 e.2) empty

end Table

end OnePass
