import OnePass.Proofs.LeastEdits
import OnePass.Proofs.UsableHints

/-!
# Mnemonics mistyped by one slip

A slip of the fingers is one edit of a character or two neighbours in the wrong order, which are
two edits. A keyword that has become unknown by a slip is near enough to be offered as a hint. Only
three keywords before it can keep it from being offered.
-/

namespace OnePass.Proofs

open scoped List

/-- One character is inserted, deleted or replaced, or two neighbours are swapped. -/
inductive Slip : Text → Text → Prop where
  | edit {s t : Text} : CharEdit s t → Slip s t
  | swap (before after : Text) (a b : Char) :
    Slip (before ++ a :: b :: after) (before ++ b :: a :: after)

section Slips

variable {s t : Text}

lemma length_of_slip (h : Slip s t) : t.length ≤ s.length + 1 ∧ s.length ≤ t.length + 1 := by
  cases h with
  | edit h =>
    cases h with
    | insertion before after ch =>
      simp only [List.length_append, List.length_cons]
      omega
    | deletion before after ch =>
      simp only [List.length_append, List.length_cons]
      omega
    | substitution before after ch ch' =>
      simp only [List.length_append, List.length_cons]
      omega
  | swap before after a b =>
    simp only [List.length_append, List.length_cons]
    omega

lemma editScript_of_swap (before after : Text) (a b : Char) :
    EditScript 2 (before ++ a :: b :: after) (before ++ b :: a :: after) := by
  have hfirst : CharEdit (before ++ a :: b :: after) (before ++ b :: b :: after) :=
    .substitution before (b :: after) a b
  have hsecond : CharEdit (before ++ b :: b :: after) (before ++ b :: a :: after) := by
    simpa using CharEdit.substitution (before ++ [b]) after b a
  exact .step hfirst (.step hsecond (.done _))

lemma editDistance_of_slip (h : Slip s t) : Text.editDistance s t ≤ 2 := by
  cases h with
  | edit h =>
    have hone := editDistance_le (.step h (.done t))
    omega
  | swap before after a b => exact editDistance_le (editScript_of_swap before after a b)

end Slips

section Hints

lemma isSimilar_of_slip {name keyword : Text}
    (h : Slip (Text.foldCase name) (Text.foldCase keyword)) :
    MnemonicTable.isSimilar name keyword = true := by
  obtain ⟨hlonger, hshorter⟩ := length_of_slip h
  have hdistance := editDistance_of_slip h
  simp only [MnemonicTable.isSimilar, Bool.and_eq_true, decide_eq_true_eq]
  exact ⟨⟨hlonger, hshorter⟩, hdistance⟩

/-- The first few entries that are wanted either reach as far as one of them or lie before it. -/
lemma take_filter_reaches {α : Type} {p : α → Bool} {x : α} (hx : p x = true) (n : Nat)
    (before after : List α) :
    let first := ((before ++ x :: after).filter p).take n
    x ∈ first ∨ first.length = n ∧ first <+ before := by
  intro first
  by_cases hlen : (before.filter p).length < n
  · left
    exact (mem_take_filter_iff p n _ x).mpr ⟨before, after, rfl, hx, hlen⟩
  · right
    have hfirst : first = (before.filter p).take n := by
      simp only [first]
      rw [List.filter_append, List.take_append_of_le_length (by omega)]
    rw [hfirst, List.length_take]
    exact ⟨by omega, (List.take_sublist n _).trans List.filter_sublist⟩

end Hints

/-- Hints are at most three keywords in the order of the table. A keyword of which the name is a
slip is one of them, unless they are three keywords that all stand before it. -/
theorem slips_hinted (t : MnemonicTable) (name : Text) :
    t.similar name <+ t.keywords ∧ (t.similar name).length ≤ 3 ∧
      ∀ before keyword after, t.keywords = before ++ keyword :: after →
        Slip (Text.foldCase name) (Text.foldCase keyword) →
        keyword ∈ t.similar name ∨
          (t.similar name).length = 3 ∧ t.similar name <+ before := by
  refine ⟨(List.take_sublist 3 _).trans List.filter_sublist, List.length_take_le 3 _, ?_⟩
  intro before keyword after hkeywords hslip
  have hreaches := take_filter_reaches (isSimilar_of_slip hslip) 3 before after
  rwa [← hkeywords] at hreaches

/-- A keyword that is longer when it is folded has lost a letter, and two letters of the last
keyword are swapped, which three keywords before it are as near to. -/
theorem slips_in_crowded_table :
    let t : MnemonicTable :=
      ⟨[⟨"Straße".toList, 1, by decide⟩, ⟨"mova".toList, 2, by decide⟩,
        ⟨"movb".toList, 2, by decide⟩, ⟨"movc".toList, 2, by decide⟩,
        ⟨"mov".toList, 4, by decide⟩], by decide +kernel⟩
    Slip (Text.foldCase "STRASE".toList) (Text.foldCase "Straße".toList) ∧
      "Straße".toList ∈ t.similar "STRASE".toList ∧
      Slip (Text.foldCase "MVO".toList) (Text.foldCase "mov".toList) ∧
      (t.similar "MVO".toList).length = 3 ∧
      t.similar "MVO".toList <+ ["Straße".toList, "mova".toList, "movb".toList, "movc".toList] := by
  intro t
  have hlost : Slip (Text.foldCase "STRASE".toList) (Text.foldCase "Straße".toList) :=
    .edit (.insertion ['s', 't', 'r', 'a', 's'] ['e'] 's')
  have hswapped : Slip (Text.foldCase "MVO".toList) (Text.foldCase "mov".toList) :=
    .swap ['m'] [] 'v' 'o'
  have hfirst := (slips_hinted t "STRASE".toList).2.2 [] _ _ rfl hlost
  have hlast := (slips_hinted t "MVO".toList).2.2
    ["Straße".toList, "mova".toList, "movb".toList, "movc".toList] _ [] rfl hswapped
  exact ⟨hlost, hfirst.resolve_right (by decide +kernel), hswapped,
    hlast.resolve_left (by decide +kernel)⟩

end OnePass.Proofs
