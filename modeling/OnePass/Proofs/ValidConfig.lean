import Mathlib.Data.List.Basic
import OnePass.Config

/-!
# Valid settings

The check of settings finds no fault just when five conditions hold: each mark is a single
character that is not blank, no two marks are the same, the limit is positive, and the encoding has
a name without the null character that is known.
-/

namespace OnePass.Proofs

theorem valid_iff (c : Config) :
    c.Valid ↔ (∀ m ∈ c.marks, isMark m.2 = true) ∧ (c.marks.map Prod.snd).Nodup ∧
      1 ≤ c.lineLimit ∧ '\x00' ∉ c.encoding ∧ Codec.ofName? c.encoding ≠ none := by
  unfold Config.Valid Config.check
  cases hm : c.marks.find? fun m => !isMark m.2 with
  | some m =>
    have hbad := List.find?_some hm
    have hmem := List.mem_of_find?_eq_some hm
    constructor
    · intro h
      exact absurd h (by simp)
    · intro h
      simp [h.1 m hmem] at hbad
  | none =>
    have hgood : ∀ m ∈ c.marks, isMark m.2 = true := by simpa using hm
    by_cases hn : (c.marks.map Prod.snd).Nodup
    · by_cases hl : c.lineLimit < 1
      · have hl' : ¬1 ≤ c.lineLimit := by omega
        simp [hn, hl, hl']
      · have hl' : 1 ≤ c.lineLimit := by omega
        by_cases hz : '\x00' ∈ c.encoding
        · simp [hn, hl, hz]
        · cases hc : Codec.ofName? c.encoding with
          | none => simp [hn, hl, hz]
          | some codec =>
            exact ⟨fun _ => ⟨hgood, hn, hl', hz, by simp⟩, fun _ => by simp [hn, hl, hz]⟩
    · simp [hn]

lemma mark_of_valid {c : Config} (h : c.Valid) {m : Mark × Text} (hm : m ∈ c.marks) :
    ∃ ch, m.2 = [ch] ∧ Text.isBlank ch = false := by
  have hmark := ((valid_iff c).mp h).1 m hm
  match hl : m.2 with
  | [] => simp [hl, isMark] at hmark
  | [ch] => exact ⟨ch, rfl, by simpa [hl, isMark] using hmark⟩
  | _ :: _ :: _ => simp [hl, isMark] at hmark

lemma labelMark_of_valid {c : Config} (h : c.Valid) :
    ∃ m, c.labelMark = [m] ∧ Text.isBlank m = false :=
  mark_of_valid h (show (Mark.label, c.labelMark) ∈ c.marks by simp [Config.marks])

lemma labelMark_ne_nil {c : Config} (h : c.Valid) : c.labelMark ≠ [] := by
  obtain ⟨m, hm, -⟩ := labelMark_of_valid h
  rw [hm]
  exact List.cons_ne_nil m []

lemma outsideMarks_of_valid {c : Config} (h : c.Valid) :
    (∃ q, c.quoteMark = [q] ∧ Text.isBlank q = false) ∧
      ∃ m, c.commentMark = [m] ∧ Text.isBlank m = false :=
  ⟨mark_of_valid h (show (Mark.quote, c.quoteMark) ∈ c.marks by simp [Config.marks]),
    mark_of_valid h (show (Mark.comment, c.commentMark) ∈ c.marks by simp [Config.marks])⟩

lemma marks_differ {c : Config} (h : c.Valid) :
    c.commentMark ≠ c.quoteMark ∧ c.labelMark ≠ c.quoteMark ∧ c.labelMark ≠ c.commentMark := by
  have hn := ((valid_iff c).mp h).2.1
  simp only [Config.marks, List.map_cons, List.map_nil, List.nodup_cons, List.mem_cons,
    List.not_mem_nil, or_false, not_or] at hn
  exact ⟨hn.1.1, fun he => hn.2.1.2 he.symm, fun he => hn.1.2.2 he.symm⟩

lemma escapeMark_of_valid {c : Config} (h : c.Valid) :
    (∃ e, c.escapeMark = [e] ∧ Text.isBlank e = false) ∧ c.quoteMark ≠ c.escapeMark := by
  have hn := ((valid_iff c).mp h).2.1
  simp only [Config.marks, List.map_cons, List.map_nil, List.nodup_cons, List.mem_cons,
    List.not_mem_nil, or_false, not_or] at hn
  exact ⟨mark_of_valid h (show (Mark.escape, c.escapeMark) ∈ c.marks by simp [Config.marks]),
    hn.2.1.1⟩

end OnePass.Proofs
