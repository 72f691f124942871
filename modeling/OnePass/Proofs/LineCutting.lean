import Mathlib.Data.List.Basic
import OnePass.Text.LineBreak

/-!
# Lines of a text that arrives in parts

The lines of two texts one after the other are those of the first, up to its last line, and those
of that line together with the second text. Where the first text ends in a line ending that cannot
go on, no line spans both. The lines that are certain while more is to come follow from this.
-/

namespace OnePass.Proofs

/-- A character that ends a line of a source. -/
def IsLineEnd (c : Char) : Prop := c = '\n' ∨ c = '\r'

instance (c : Char) : Decidable (IsLineEnd c) := instDecidableOr

/-- Puts a character in front of the first line. -/
def putFirst (c : Char) : List Text → List Text
  | [] => [[c]]
  | l :: ls => (c :: l) :: ls

lemma sourceLines_pair (s : Text) :
    Text.sourceLines ('\r' :: '\n' :: s) = ['\r', '\n'] :: Text.sourceLines s := by
  rw [Text.sourceLines]

lemma sourceLines_ending {c : Char} {s : Text} (hc : IsLineEnd c)
    (hs : c = '\r' → s.head? ≠ some '\n') :
    Text.sourceLines (c :: s) = [c] :: Text.sourceLines s := by
  have hpair : ∀ t, c = '\r' → s = '\n' :: t → False := by
    rintro t hr rfl
    exact hs hr rfl
  rw [Text.sourceLines.eq_3 c s hpair]
  exact if_pos hc

lemma sourceLines_plain {c : Char} {s : Text} (hc : ¬IsLineEnd c) :
    Text.sourceLines (c :: s) = putFirst c (Text.sourceLines s) := by
  have hpair : ∀ t, c = '\r' → s = '\n' :: t → False := fun _ hr _ => hc (Or.inr hr)
  rw [Text.sourceLines.eq_3 c s hpair]
  refine (if_neg hc).trans ?_
  cases Text.sourceLines s with
  | nil => rfl
  | cons l ls => rfl

/-- Induction over the ways a source starts: with a pair of line ends, with a single line end or
with a character of its first line. -/
@[elab_as_elim]
lemma sourceLines_induction {motive : Text → Prop} (nil : motive [])
    (pair : ∀ s, motive s → motive ('\r' :: '\n' :: s))
    (ending : ∀ c s, IsLineEnd c → (c = '\r' → s.head? ≠ some '\n') → motive s → motive (c :: s))
    (plain : ∀ c s, ¬IsLineEnd c → motive s → motive (c :: s)) (s : Text) : motive s := by
  induction s using Text.sourceLines.induct with
  | case1 => exact nil
  | case2 s ih => exact pair s ih
  | case3 c s hpair hc ih =>
    refine ending c s hc ?_ ih
    intro hr hs
    obtain ⟨t, rfl⟩ := List.head?_eq_some_iff.mp hs
    exact hpair t hr rfl
  | case4 c s hpair hc hs ih => exact plain c s hc ih
  | case5 c s hpair hc l ls hs ih => exact plain c s hc ih

lemma sourceLines_eq_nil_iff (s : Text) : Text.sourceLines s = [] ↔ s = [] := by
  refine ⟨?_, fun h => h ▸ rfl⟩
  induction s using sourceLines_induction with
  | nil => exact fun _ => rfl
  | pair s ih => simp [sourceLines_pair]
  | ending c s hc hs ih => simp [sourceLines_ending hc hs]
  | plain c s hc ih =>
    rw [sourceLines_plain hc]
    cases Text.sourceLines s with
    | nil => simp [putFirst]
    | cons l ls => simp [putFirst]

lemma flatten_putFirst (c : Char) (lines : List Text) :
    (putFirst c lines).flatten = c :: lines.flatten := by
  cases lines with
  | nil => rfl
  | cons l ls => rfl

theorem flatten_sourceLines (s : Text) : (Text.sourceLines s).flatten = s := by
  induction s using sourceLines_induction with
  | nil => rfl
  | pair s ih =>
    rw [sourceLines_pair, List.flatten_cons, ih]
    rfl
  | ending c s hc hs ih =>
    rw [sourceLines_ending hc hs, List.flatten_cons, ih]
    rfl
  | plain c s hc ih => rw [sourceLines_plain hc, flatten_putFirst, ih]

lemma sourceLines_append_plain {l rest line : Text} {more : List Text}
    (h : ∀ c ∈ l, ¬IsLineEnd c) (hrest : Text.sourceLines rest = line :: more) :
    Text.sourceLines (l ++ rest) = (l ++ line) :: more := by
  induction l with
  | nil => exact hrest
  | cons c l ih =>
    obtain ⟨hc, hl⟩ := List.forall_mem_cons.mp h
    rw [List.cons_append, sourceLines_plain hc, ih hl]
    rfl

lemma sourceLines_of_plain {l : Text} (h : ∀ c ∈ l, ¬IsLineEnd c) (hne : l ≠ []) :
    Text.sourceLines l = [l] := by
  induction l with
  | nil => exact absurd rfl hne
  | cons c l ih =>
    obtain ⟨hc, hl⟩ := List.forall_mem_cons.mp h
    rw [sourceLines_plain hc]
    cases l with
    | nil => rfl
    | cons d l =>
      rw [ih hl (List.cons_ne_nil d l)]
      rfl

/-- No line goes on from the first text into the second. -/
def IsLineBoundary (s more : Text) : Prop :=
  s = [] ∨ s.getLast? = some '\n' ∨ s.getLast? = some '\r' ∧ more.head? ≠ some '\n'

/-- Texts that no line spans are cut into lines one by one. -/
theorem sourceLines_append_of_boundary {s more : Text} (h : IsLineBoundary s more) :
    Text.sourceLines (s ++ more) = Text.sourceLines s ++ Text.sourceLines more := by
  induction s using sourceLines_induction with
  | nil => rfl
  | pair s ih =>
    have hs : IsLineBoundary s more := by
      cases s with
      | nil => exact Or.inl rfl
      | cons d s => simpa [IsLineBoundary] using h
    rw [List.cons_append, List.cons_append, sourceLines_pair, sourceLines_pair, ih hs,
      List.cons_append]
  | ending c s hc hnext ih =>
    have hs : IsLineBoundary s more := by
      cases s with
      | nil => exact Or.inl rfl
      | cons d s => simpa [IsLineBoundary] using h
    have hnext' : c = '\r' → (s ++ more).head? ≠ some '\n' := by
      intro hr
      cases s with
      | nil => simpa [IsLineBoundary, hr] using h
      | cons d s => exact hnext hr
    rw [List.cons_append, sourceLines_ending hc hnext', sourceLines_ending hc hnext, ih hs,
      List.cons_append]
  | plain c s hc ih =>
    have hne : s ≠ [] := by
      rintro rfl
      obtain h | h | h := h
      · cases h
      · exact hc (Or.inl (Option.some.inj h))
      · exact hc (Or.inr (Option.some.inj h.1))
    have hs : IsLineBoundary s more := by
      cases s with
      | nil => exact absurd rfl hne
      | cons d s => simpa [IsLineBoundary] using h
    rw [List.cons_append, sourceLines_plain hc, sourceLines_plain hc, ih hs]
    cases hl : Text.sourceLines s with
    | nil => exact absurd ((sourceLines_eq_nil_iff s).mp hl) hne
    | cons l ls => rfl

theorem sourceLines_append (s more : Text) :
    Text.sourceLines (s ++ more) = (Text.sourceLines s).dropLast ++
      Text.sourceLines ((Text.sourceLines s).getLast?.getD [] ++ more) := by
  induction s using sourceLines_induction with
  | nil => rfl
  | pair s ih =>
    rw [List.cons_append, List.cons_append, sourceLines_pair, sourceLines_pair, ih]
    cases hl : Text.sourceLines s with
    | nil => simp [sourceLines_pair]
    | cons l ls =>
      rw [List.dropLast_cons_of_ne_nil (List.cons_ne_nil l ls), List.getLast?_cons_cons,
        List.cons_append]
  | ending c s hc hnext ih =>
    rw [sourceLines_ending hc hnext]
    cases hl : Text.sourceLines s with
    | nil =>
      rw [(sourceLines_eq_nil_iff s).mp hl]
      rfl
    | cons l ls =>
      have hne : s ≠ [] := by
        rintro rfl
        cases hl
      have hnext' : c = '\r' → (s ++ more).head? ≠ some '\n' := by
        cases s with
        | nil => exact absurd rfl hne
        | cons d s => exact hnext
      rw [List.cons_append, sourceLines_ending hc hnext', ih, hl,
        List.dropLast_cons_of_ne_nil (List.cons_ne_nil l ls), List.getLast?_cons_cons,
        List.cons_append]
  | plain c s hc ih =>
    rw [List.cons_append, sourceLines_plain hc, sourceLines_plain hc, ih]
    match Text.sourceLines s with
    | [] => exact (sourceLines_plain hc).symm
    | [l] => exact (sourceLines_plain hc).symm
    | l :: m :: ls => rfl

/-- The lines that are certain come first, whatever comes next. -/
theorem sourceLines_append_completeLines (s more : Text) :
    Text.sourceLines (s ++ more) =
      (Text.completeLines s).1 ++ Text.sourceLines ((Text.completeLines s).2 ++ more) := by
  unfold Text.completeLines
  split_ifs with h
  · exact sourceLines_append_of_boundary (Or.inr (Or.inl h))
  · exact sourceLines_append s more

section Terminated

/-- A line with its ending. -/
def IsTerminated (line : Text) : Prop := ∃ c, line.getLast? = some c ∧ IsLineEnd c

lemma isTerminated_cons {c : Char} {line : Text} (h : IsTerminated line) :
    IsTerminated (c :: line) := by
  obtain ⟨d, hlast, hd⟩ := h
  refine ⟨d, ?_, hd⟩
  rw [List.getLast?_cons, hlast]
  rfl

lemma forall_mem_dropLast_cons {P : Text → Prop} {l : Text} {ls : List Text} (hl : P l)
    (h : ∀ line ∈ ls.dropLast, P line) : ∀ line ∈ (l :: ls).dropLast, P line := by
  cases ls with
  | nil => simp
  | cons m ms =>
    rw [List.dropLast_cons_of_ne_nil (List.cons_ne_nil m ms)]
    exact List.forall_mem_cons.mpr ⟨hl, h⟩

lemma isTerminated_dropLast (s : Text) :
    ∀ line ∈ (Text.sourceLines s).dropLast, IsTerminated line := by
  induction s using sourceLines_induction with
  | nil => simp [Text.sourceLines]
  | pair s ih =>
    rw [sourceLines_pair]
    exact forall_mem_dropLast_cons ⟨'\n', rfl, Or.inl rfl⟩ ih
  | ending c s hc hs ih =>
    rw [sourceLines_ending hc hs]
    exact forall_mem_dropLast_cons ⟨c, rfl, hc⟩ ih
  | plain c s hc ih =>
    rw [sourceLines_plain hc]
    match Text.sourceLines s, ih with
    | [], _ => simp [putFirst]
    | [l], _ => simp [putFirst]
    | l :: m :: ls, ih =>
      rw [List.dropLast_cons_of_ne_nil (List.cons_ne_nil m ls)] at ih
      obtain ⟨hl, hls⟩ := List.forall_mem_cons.mp ih
      exact forall_mem_dropLast_cons (isTerminated_cons hl) hls

/-- Lines that are certain while more is to come have their endings. -/
theorem isTerminated_completeLines (s : Text) :
    ∀ line ∈ (Text.completeLines s).1, IsTerminated line := by
  intro line hline
  have hcut := sourceLines_append_completeLines s ['x']
  have hrest : Text.sourceLines ((Text.completeLines s).2 ++ ['x']) ≠ [] := by
    rw [ne_eq, sourceLines_eq_nil_iff]
    simp
  apply isTerminated_dropLast (s ++ ['x'])
  rw [hcut, List.dropLast_append_of_ne_nil hrest]
  exact List.mem_append_left _ hline

end Terminated

end OnePass.Proofs
