import Mathlib.Data.List.Basic
import OnePass.Files.Tree

/-!
# Reading what was written

A file is written at the place that its path leads to, and nothing else in the tree changes. The
directories on the way to it are what they were, so the same path leads to the same place
afterwards, and what was written is read there.
-/

namespace OnePass.Proofs

section Writing

variable {α β : Type} [DecidableEq α]

lemma find?_write (k : α) (v : β) (es : List (α × β)) (key : α) :
    ((Table.write k v es).find? fun e => e.1 = key).map Prod.snd =
      if k = key then some v else (es.find? fun e => e.1 = key).map Prod.snd := by
  induction es with
  | nil =>
    by_cases h : k = key
    · simp [Table.write, h]
    · simp [Table.write, h]
  | cons e es ih =>
    by_cases hk : e.1 = k
    · by_cases h : k = key
      · simp [Table.write, hk, h]
      · simp [Table.write, hk, h]
    · by_cases h : e.1 = key
      · have hne : ¬k = key := fun he => hk (h.trans he.symm)
        have hwrite : Table.write k v (e :: es) = e :: Table.write k v es := if_neg hk
        simp [hwrite, h, hne]
      · simp [Table.write, hk, h, ih]

theorem find?_insert (t : Table α β) (k : α) (v : β) (key : α) :
    (t.insert k v).find? key = if k = key then some v else t.find? key :=
  find?_write k v t.entries key

end Writing

variable {t : FileTree} {place : List Text} {content : Bytes}

lemma node?_putFile_self (h : place ≠ []) :
    (t.putFile place content).node? place = some (.file content) := by
  rw [FileTree.node?, if_neg h]
  exact (find?_insert _ _ _ _).trans (if_pos rfl)

theorem node?_putFile {other : List Text} (h : other ≠ place) :
    (t.putFile place content).node? other = t.node? other := by
  rw [FileTree.node?, FileTree.node?]
  congr 1
  exact (find?_insert _ _ _ _).trans (if_neg h.symm)

section Following

variable {start p : List Text} {node : Node} {name : Text} {names more rest : List Text}
  {found : List Text × Node}

lemma node?_of_follow_nil (h : t.follow start [] = .ok (p, node)) :
    start = p ∧ t.node? start = some node := by
  rw [FileTree.follow] at h
  cases hn : t.node? start with
  | none => simp [hn] at h
  | some n => simpa [hn] using h

lemma directory_of_follow (h : t.follow start (name :: rest) = .ok found) :
    t.node? start = some .directory := by
  rw [FileTree.follow] at h
  cases hn : t.node? start with
  | none => simp [hn] at h
  | some n =>
    cases n with
    | file content => simp [hn] at h
    | directory => rfl

lemma follow_cons (h : t.node? start = some .directory) (name : Text) (rest : List Text) :
    t.follow start (name :: rest) =
      if name = ['.'] then t.follow start rest
      else if name = ['.', '.'] then t.follow start.dropLast rest
      else if maxName < Text.byteLength name then .error .nameTooLong
      else t.follow (start ++ [name]) rest := by
  rw [FileTree.follow, h]

lemma follow_append (h : t.follow start names = .ok (p, node)) (more : List Text) :
    t.follow start (names ++ more) = t.follow p more := by
  induction names generalizing start with
  | nil =>
    rw [(node?_of_follow_nil h).1]
    rfl
  | cons name rest ih =>
    have hstart := directory_of_follow h
    rw [follow_cons hstart] at h
    rw [List.cons_append, follow_cons hstart]
    split_ifs at h ⊢
    · exact ih h
    · exact ih h
    · exact ih h

/-- A way through directories is not changed by a file that is written where no directory is. -/
lemma follow_putFile (content : Bytes) (hplace : t.node? place ≠ some .directory)
    (h : t.follow start names = .ok (p, .directory)) :
    (t.putFile place content).follow start names = .ok (p, .directory) ∧
      (t.putFile place content).node? p = some .directory := by
  have hkept : ∀ q, t.node? q = some .directory →
      (t.putFile place content).node? q = some .directory := by
    intro q hq
    have hne : q ≠ place := by
      rintro rfl
      exact hplace hq
    rw [node?_putFile hne, hq]
  induction names generalizing start with
  | nil =>
    obtain ⟨rfl, hn⟩ := node?_of_follow_nil h
    rw [FileTree.follow, hkept start hn]
    exact ⟨rfl, rfl⟩
  | cons name rest ih =>
    have hstart := directory_of_follow h
    rw [follow_cons hstart] at h
    rw [follow_cons (hkept start hstart)]
    split_ifs at h ⊢
    · exact ih h
    · exact ih h
    · exact ih h

end Following

/-- The way that a path to be written takes: through directories, and then to a name that no
directory has. -/
structure LeadsTo (t : FileTree) (path : Text) (above : List Text) (name : Text) : Prop where
  accepted : FileTree.checkPath path = .ok ()
  open_end : path.getLast? ≠ some '/'
  names : FileTree.names path = (FileTree.names path).dropLast ++ [name]
  way : t.follow (t.origin path) (FileTree.names path).dropLast = .ok (above, .directory)
  plain : name ≠ ['.'] ∧ name ≠ ['.', '.']
  short : Text.byteLength name ≤ maxName
  free : t.node? (above ++ [name]) ≠ some .directory

lemma leadsTo_of_destination {path : Text} (h : t.destination path = .ok place) :
    ∃ above name, place = above ++ [name] ∧ LeadsTo t path above name := by
  unfold FileTree.destination at h
  cases hcheck : FileTree.checkPath path with
  | error e => simp [hcheck] at h
  | ok u =>
    cases hlast : (FileTree.names path).getLast? with
    | none => simp [hcheck, hlast] at h
    | some name =>
      cases hway : t.follow (t.origin path) (FileTree.names path).dropLast with
      | error e => simp [hcheck, hlast, hway] at h
      | ok found =>
        obtain ⟨above, node⟩ := found
        cases node with
        | file c => simp [hcheck, hlast, hway] at h
        | directory =>
          simp only [hcheck, hlast, hway] at h
          split_ifs at h with hname hlong
          simp only [not_or] at hname
          have hfree : t.node? (above ++ [name]) ≠ some .directory := by
            intro hd
            simp [hd] at h
          have hplace : above ++ [name] = place := by
            cases hn : t.node? (above ++ [name]) with
            | none => simpa [hn] using h
            | some n =>
              cases n with
              | directory => exact absurd hn hfree
              | file c => simpa [hn] using h
          have hnames : FileTree.names path = (FileTree.names path).dropLast ++ [name] := by
            obtain ⟨directories, hd⟩ := List.getLast?_eq_some_iff.mp hlast
            rw [hd, List.dropLast_concat]
          exact ⟨above, name, hplace.symm, hcheck, hname.2.2, hnames, hway, ⟨hname.1, hname.2.1⟩,
            Nat.not_lt.mp hlong, hfree⟩

theorem read_putFile {path : Text} (h : t.destination path = .ok place) :
    (t.putFile place content).read path = .ok content := by
  obtain ⟨above, name, rfl, hleads⟩ := leadsTo_of_destination h
  obtain ⟨hway, habove⟩ := follow_putFile content hleads.free hleads.way
  have hself : (t.putFile (above ++ [name]) content).node? (above ++ [name]) =
      some (.file content) := node?_putFile_self (by simp)
  have hlast : (t.putFile (above ++ [name]) content).follow above [name] =
      .ok (above ++ [name], .file content) := by
    rw [follow_cons habove, if_neg hleads.plain.1, if_neg hleads.plain.2,
      if_neg (Nat.not_lt.mpr hleads.short), FileTree.follow, hself]
  have hfind : (t.putFile (above ++ [name]) content).find path =
      .ok (above ++ [name], .file content) := by
    rw [FileTree.find, hleads.accepted]
    simp only [if_neg hleads.open_end, List.append_nil]
    rw [hleads.names]
    exact (follow_append hway [name]).trans hlast
  rw [FileTree.read, hfind]

end OnePass.Proofs
