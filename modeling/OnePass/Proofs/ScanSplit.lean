import Mathlib.Data.List.DropRight
import OnePass.Proofs.ValidConfig
import OnePass.Line.Comment

/-!
# Scans over split lines

The scan of two texts one after the other is the scan of the first, continued with the second from
where it stands. With valid settings a blank never counts as a mark, so that the blanks around the
code of a line and the comment behind it are told apart from the code.
-/

namespace OnePass.Proofs

/-- A text without a mark that counts outside quoted spans. -/
def IsPlain (c : Config) (s : Text) : Prop :=
  ∀ ch ∈ s, [ch] ≠ c.quoteMark ∧ [ch] ≠ c.commentMark

instance (c : Config) (s : Text) : Decidable (IsPlain c s) := List.decidableBAll _ s

lemma prefix_code (c : Config) (s : Scan) (raw : Text) : s.code c raw <+: raw := by
  induction raw generalizing s with
  | nil => exact List.prefix_refl _
  | cons ch rest ih =>
    rw [Scan.code]
    cases s.next c ch with
    | none => exact List.nil_prefix
    | some s' => exact List.prefix_cons_inj ch |>.mpr (ih s')

lemma next_eq_none {c : Config} {s : Scan} {ch : Char} (h : s.next c ch = none) :
    s = .outside ∧ [ch] = c.commentMark := by
  cases s with
  | outside =>
    rw [Scan.next] at h
    split_ifs at h with hquote hcomment
    exact ⟨rfl, hcomment⟩
  | inside =>
    rw [Scan.next] at h
    split_ifs at h
  | escaped => cases h

section Split

variable {c : Config} {s s' : Scan} {before : Text}

lemma end?_append (s : Scan) (before after : Text) :
    s.end? c (before ++ after) = (s.end? c before).bind fun s' => s'.end? c after := by
  induction before generalizing s with
  | nil => rfl
  | cons ch before ih =>
    rw [List.cons_append, Scan.end?, Scan.end?]
    cases s.next c ch with
    | none => rfl
    | some s' => exact ih s'

/-- The code of a line goes on behind a text in which no comment starts. -/
lemma code_append (h : s.end? c before = some s') (after : Text) :
    s.code c (before ++ after) = before ++ s'.code c after := by
  induction before generalizing s with
  | nil =>
    obtain rfl := Option.some.inj h
    rfl
  | cons ch before ih =>
    rw [Scan.end?] at h
    rw [List.cons_append, Scan.code]
    cases hn : s.next c ch with
    | none =>
      rw [hn] at h
      cases h
    | some t =>
      rw [hn] at h
      simp only [List.cons_append, ih h]

lemma code_of_no_comment (h : s.end? c before = some s') : s.code c before = before := by
  have hcode := code_append h []
  rwa [Scan.code, List.append_nil] at hcode

lemma code_append_of_comment (h : s.end? c before = none) (after : Text) :
    s.code c (before ++ after) = s.code c before := by
  induction before generalizing s with
  | nil => cases h
  | cons ch before ih =>
    rw [Scan.end?] at h
    rw [List.cons_append, Scan.code, Scan.code]
    cases hn : s.next c ch with
    | none => rfl
    | some t =>
      rw [hn] at h
      simp only [ih h]

end Split

lemma end?_of_isPlain {c : Config} {s : Text} (h : IsPlain c s) :
    Scan.outside.end? c s = some .outside := by
  induction s with
  | nil => rfl
  | cons ch s ih =>
    obtain ⟨⟨hq, hc⟩, hs⟩ := List.forall_mem_cons.mp h
    rw [Scan.end?, Scan.next, if_neg hq, if_neg hc]
    exact ih hs

lemma code_comment {c : Config} (valid : c.Valid) (s : Text) :
    Scan.outside.code c (c.commentMark ++ s) = [] := by
  obtain ⟨-, m, hm, -⟩ := outsideMarks_of_valid valid
  have hne := (marks_differ valid).1
  rw [hm] at hne ⊢
  rw [List.singleton_append, Scan.code, Scan.next, if_neg hne, if_pos hm.symm]

lemma isPlain_of_blank {c : Config} (valid : c.Valid) {s : Text}
    (h : ∀ ch ∈ s, Text.isBlank ch = true) : IsPlain c s := by
  obtain ⟨⟨q, hq, hqb⟩, m, hm, hmb⟩ := outsideMarks_of_valid valid
  intro ch hch
  have hb := h ch hch
  rw [hq, hm]
  constructor
  · rintro ⟨⟩
    exact Bool.false_ne_true (hqb.symm.trans hb)
  · rintro ⟨⟩
    exact Bool.false_ne_true (hmb.symm.trans hb)

lemma isPlain_labelMark {c : Config} (valid : c.Valid) : IsPlain c c.labelMark := by
  obtain ⟨m, hm, -⟩ := labelMark_of_valid valid
  obtain ⟨-, hq, hc⟩ := marks_differ valid
  rw [hm] at hq hc
  rw [hm]
  intro ch hch
  obtain rfl := List.mem_singleton.mp hch
  exact ⟨hq, hc⟩

lemma trimRight_append_blank {s : Text} (tail : Text) (h : ∀ ch ∈ tail, Text.isBlank ch = true) :
    Text.trimRight (s ++ tail) = Text.trimRight s := by
  have hr : ∀ ch ∈ tail.reverse, Text.isBlank ch = true :=
    fun ch hch => h ch (List.mem_reverse.mp hch)
  rw [Text.trimRight, Text.trimRight, List.reverse_append, List.dropWhile_append_of_pos hr]

lemma end?_blank {c : Config} (valid : c.Valid) (s : Scan) {tail : Text}
    (h : ∀ ch ∈ tail, Text.isBlank ch = true) : ∃ s', s.end? c tail = some s' := by
  induction tail generalizing s with
  | nil => exact ⟨s, rfl⟩
  | cons ch tail ih =>
    obtain ⟨hch, htail⟩ := List.forall_mem_cons.mp h
    have hnext : s.next c ch ≠ none := by
      intro hnone
      obtain ⟨-, hmark⟩ := next_eq_none hnone
      obtain ⟨⟨-, hplain⟩, -⟩ := List.forall_mem_cons.mp (isPlain_of_blank valid h)
      exact hplain hmark
    obtain ⟨s', hs'⟩ := Option.ne_none_iff_exists'.mp hnext
    obtain ⟨t, ht⟩ := ih s' htail
    refine ⟨t, ?_⟩
    rw [Scan.end?, hs']
    exact ht

/-- Blanks at the end of a line are not seen, even if a quoted span is open there. -/
theorem strip_append_blank {c : Config} (valid : c.Valid) (s : Text) {tail : Text}
    (h : ∀ ch ∈ tail, Text.isBlank ch = true) : Line.strip c (s ++ tail) = Line.strip c s := by
  rw [Line.strip, Line.strip]
  cases hs : Scan.outside.end? c s with
  | none => rw [code_append_of_comment hs]
  | some s' =>
    obtain ⟨t, ht⟩ := end?_blank valid s' h
    rw [code_append hs, code_of_no_comment ht, code_of_no_comment hs, trimRight_append_blank tail h]

lemma trimRight_eq_rdropWhile (s : Text) : Text.trimRight s = s.rdropWhile Text.isBlank := rfl

lemma trimRight_isPrefix (s : Text) : Text.trimRight s <+: s := by
  rw [trimRight_eq_rdropWhile]
  exact List.rdropWhile_prefix _ s

lemma strip_isPrefix (c : Config) (raw : Text) : Line.strip c raw <+: raw := by
  rw [Line.strip]
  exact (trimRight_isPrefix _).trans (prefix_code c .outside raw)

lemma not_blank_of_trimRight {s : Text} {ch : Char} (h : (Text.trimRight s).getLast? = some ch) :
    Text.isBlank ch = false := by
  rw [trimRight_eq_rdropWhile] at h
  have hne : s.rdropWhile Text.isBlank ≠ [] := by
    intro hnil
    rw [hnil] at h
    cases h
  have hlast := List.rdropWhile_last_not Text.isBlank s hne
  rw [List.getLast?_eq_some_getLast hne] at h
  obtain rfl := Option.some.inj h
  simpa using hlast

lemma trimRight_eq_self {s : Text} (h : ∀ ch, s.getLast? = some ch → Text.isBlank ch = false) :
    Text.trimRight s = s := by
  rw [Text.trimRight]
  cases hs : s.reverse with
  | nil => exact (List.reverse_eq_nil_iff.mp hs).symm
  | cons ch t =>
    have hl : s.getLast? = some ch := by
      rw [← List.head?_reverse, hs]
      rfl
    rw [List.dropWhile_cons_of_neg (by simp [h ch hl]), ← hs, List.reverse_reverse]

end OnePass.Proofs
