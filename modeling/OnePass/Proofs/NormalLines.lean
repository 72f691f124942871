import OnePass.Proofs.ScanSplit

/-!
# Normal lines

A raw line without its comment and without the blanks at its end is a normal line: no comment
starts in it and it does not end in a blank. The cut may leave a quoted span open, or take away the
character that an escape mark protected. Yet a scan that comes through a whole text comes through
every beginning of it, so that no comment comes to light in what is left.
-/

namespace OnePass.Proofs

/-- No comment starts in a text, and it does not end in a blank. -/
structure IsNormal (c : Config) (s : Text) : Prop where
  code : Scan.outside.end? c s ≠ none
  filled : ∀ ch, s.getLast? = some ch → Text.isBlank ch = false

section Cutting

variable {c : Config}

lemma end?_of_beginning {s : Scan} {before text : Text} (hbegins : before <+: text)
    (h : s.end? c text ≠ none) : s.end? c before ≠ none := by
  obtain ⟨after, rfl⟩ := hbegins
  intro hnone
  rw [end?_append, hnone] at h
  exact h rfl

lemma end?_code (s : Scan) (raw : Text) : s.end? c (s.code c raw) ≠ none := by
  induction raw generalizing s with
  | nil => exact Option.some_ne_none s
  | cons ch raw ih =>
    rw [Scan.code]
    cases hnext : s.next c ch with
    | none => exact Option.some_ne_none s
    | some s' =>
      simp only
      rw [Scan.end?, hnext]
      exact ih s'

theorem isNormal_strip (raw : Text) : IsNormal c (Line.strip c raw) :=
  ⟨end?_of_beginning (trimRight_isPrefix _) (end?_code .outside raw),
    fun _ h => not_blank_of_trimRight h⟩

theorem strip_of_isNormal {s : Text} (h : IsNormal c s) : Line.strip c s = s := by
  obtain ⟨s', hend⟩ := Option.ne_none_iff_exists'.mp h.code
  rw [Line.strip, code_of_no_comment hend]
  exact trimRight_eq_self h.filled

end Cutting

/-- What a raw line is normalized to is accepted as a raw line and stays as it is. -/
theorem normalize_of_normalize (c : Config) (location location' : Location) (raw text : Text)
    (h : Line.normalize c location raw = .ok text) : Line.normalize c location' text = .ok text := by
  rw [Line.normalize] at h
  split_ifs at h with hlong
  obtain rfl := Except.ok.inj h
  have hlength := (strip_isPrefix c raw).length_le
  have hshort : ¬c.lineLimit ≤ (Line.strip c raw).length := by omega
  rw [Line.normalize, if_neg hshort, strip_of_isNormal (isNormal_strip raw)]

/-- A comment mark in a span that stays open, and an escape mark that loses the blank behind it. -/
theorem normalize_open_span :
    let raw := "DB 'X;\\ \t\n".toList
    Line.normalize {} ⟨['f'], 1⟩ raw = .ok "DB 'X;\\".toList ∧
      Line.normalize {} ⟨['f'], 2⟩ "DB 'X;\\".toList = .ok "DB 'X;\\".toList := by
  intro raw
  have h : Line.normalize {} ⟨['f'], 1⟩ raw = .ok "DB 'X;\\".toList := by decide
  exact ⟨h, normalize_of_normalize {} _ _ raw _ h⟩

end OnePass.Proofs
