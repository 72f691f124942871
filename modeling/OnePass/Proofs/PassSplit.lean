import Mathlib.Data.List.Induction
import OnePass.Session

/-!
# Passes over split lists of lines

A pass over two lists of lines one after the other is the pass over the first, continued with the
second from the session and the line reached, unless it has failed already. A pass that fails is
therefore a pass without failure up to some line, and that line.
-/

namespace OnePass.Proofs

variable (s : Session) (hints : MnemonicTable) (n : Nat)

lemma pass_cons (raw : Text) (rest : List Text) :
    s.pass hints n (raw :: rest) =
      match (s.assembleLine hints (n + 1) raw).failure with
      | some d =>
        { session := (s.assembleLine hints (n + 1) raw).session
          linesRead := n + 1
          events := (s.assembleLine hints (n + 1) raw).events
          failure := some d }
      | none =>
        { (s.assembleLine hints (n + 1) raw).session.pass hints (n + 1) rest with
          events := (s.assembleLine hints (n + 1) raw).events ++
            ((s.assembleLine hints (n + 1) raw).session.pass hints (n + 1) rest).events } := rfl

lemma pass_singleton (raw : Text) :
    s.pass hints n [raw] =
      { session := (s.assembleLine hints (n + 1) raw).session
        linesRead := n + 1
        events := (s.assembleLine hints (n + 1) raw).events
        failure := (s.assembleLine hints (n + 1) raw).failure } := by
  rw [pass_cons]
  cases h : (s.assembleLine hints (n + 1) raw).failure with
  | some d => rfl
  | none => simp [Session.pass]

variable {s hints n}

/-- What a pass fails with is what one of its lines fails with. -/
lemma exists_failing_line {lines : List Text} {d : Diagnostic}
    (h : (s.pass hints n lines).failure = some d) :
    ∃ s' line raw, (Session.assembleLine s' hints line raw).failure = some d := by
  induction lines generalizing s n with
  | nil => cases h
  | cons raw rest ih =>
    rw [pass_cons] at h
    cases hf : (s.assembleLine hints (n + 1) raw).failure with
    | some d' =>
      rw [hf] at h
      exact ⟨s, n + 1, raw, hf.trans h⟩
    | none =>
      rw [hf] at h
      exact ih h

theorem pass_append_of_failed {before : List Text} (after : List Text)
    (h : (s.pass hints n before).failure ≠ none) :
    s.pass hints n (before ++ after) = s.pass hints n before := by
  induction before generalizing s n with
  | nil => exact absurd rfl h
  | cons raw before ih =>
    rw [List.cons_append, pass_cons, pass_cons]
    rw [pass_cons] at h
    cases ho : (s.assembleLine hints (n + 1) raw).failure with
    | some d => rfl
    | none =>
      simp only [ho] at h
      rw [ih h]

theorem pass_append {before : List Text} (after : List Text)
    (h : (s.pass hints n before).failure = none) :
    s.pass hints n (before ++ after) =
      { (s.pass hints n before).session.pass hints (n + before.length) after with
        events := (s.pass hints n before).events ++
          ((s.pass hints n before).session.pass hints (n + before.length) after).events } := by
  induction before generalizing s n with
  | nil => rfl
  | cons raw before ih =>
    rw [List.cons_append, pass_cons, pass_cons]
    rw [pass_cons] at h
    cases ho : (s.assembleLine hints (n + 1) raw).failure with
    | some d => simp [ho] at h
    | none =>
      simp only [ho] at h
      have hn : n + (raw :: before).length = n + 1 + before.length := by
        rw [List.length_cons]
        omega
      simp only [ih h, hn, List.append_assoc]

theorem pass_linesRead {lines : List Text} (h : (s.pass hints n lines).failure = none) :
    (s.pass hints n lines).linesRead = n + lines.length := by
  induction lines generalizing s n with
  | nil => rfl
  | cons raw rest ih =>
    rw [pass_cons] at h ⊢
    cases ho : (s.assembleLine hints (n + 1) raw).failure with
    | some d => simp [ho] at h
    | none =>
      simp only [ho] at h ⊢
      rw [ih h, List.length_cons]
      omega

theorem pass_snoc {before : List Text} (raw : Text)
    (h : (s.pass hints n before).failure = none) :
    let o := (s.pass hints n before).session.assembleLine hints ((n + before.length : Nat) + 1) raw
    s.pass hints n (before ++ [raw]) =
      { session := o.session
        linesRead := n + before.length + 1
        events := (s.pass hints n before).events ++ o.events
        failure := o.failure } := by
  dsimp only
  rw [pass_append [raw] h, pass_singleton]

/-- A failing pass stops at the line that fails, whatever follows it. -/
theorem pass_stops {lines : List Text} (h : (s.pass hints n lines).failure ≠ none) :
    ∃ before raw after, lines = before ++ raw :: after ∧
      (s.pass hints n before).failure = none ∧
      (s.pass hints n (before ++ [raw])).failure ≠ none := by
  induction lines using List.reverseRecOn with
  | nil => exact absurd rfl h
  | append_singleton lines raw ih =>
    by_cases hl : (s.pass hints n lines).failure = none
    · exact ⟨lines, raw, [], rfl, hl, h⟩
    · obtain ⟨before, stop, after, he, hb, hs⟩ := ih hl
      refine ⟨before, stop, after ++ [raw], ?_, hb, hs⟩
      rw [he, List.append_assoc, List.cons_append]

theorem pass_of_append {before after : List Text}
    (h : (s.pass hints n (before ++ after)).failure = none) :
    (s.pass hints n before).failure = none := by
  by_contra hb
  rw [pass_append_of_failed after hb] at h
  exact hb h

/-- A pass is the pass over the lines that it takes, and no line before the last of them fails. -/
theorem pass_takes (s : Session) (hints : MnemonicTable) (n : Nat) (lines : List Text) :
    ∃ k ≤ lines.length, (s.pass hints n lines).linesRead = n + k ∧
      s.pass hints n (lines.take k) = s.pass hints n lines ∧
      ∀ m < k, (s.pass hints n (lines.take m)).failure = none := by
  by_cases h : (s.pass hints n lines).failure = none
  · refine ⟨lines.length, Nat.le_refl _, pass_linesRead h, by rw [List.take_length], ?_⟩
    intro m _
    rw [← List.take_append_drop m lines] at h
    exact pass_of_append h
  · obtain ⟨before, raw, after, rfl, hb, hs⟩ := pass_stops h
    have hsplit : before ++ raw :: after = (before ++ [raw]) ++ after := by simp
    have htake : (before ++ raw :: after).take (before.length + 1) = before ++ [raw] := by
      have hlen : (before ++ [raw]).length = before.length + 1 := by simp
      rw [hsplit, ← hlen, List.take_left]
    have hpass := pass_append_of_failed after hs
    rw [← hsplit] at hpass
    refine ⟨before.length + 1, by simp, ?_, by rw [htake, hpass], ?_⟩
    · have hsnoc := pass_snoc raw hb
      dsimp only at hsnoc
      rw [hpass, hsnoc, Nat.add_assoc]
    · intro m hm
      have hle : m ≤ before.length := by omega
      rw [List.take_append_of_le_length hle]
      rw [← List.take_append_drop m before] at hb
      exact pass_of_append hb

end OnePass.Proofs
