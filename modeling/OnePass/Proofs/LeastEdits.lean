import Mathlib.Order.Bounds.Basic
import OnePass.Text.EditDistance

/-!
# Least numbers of edits

A text is edited at any place by one character: it is inserted, deleted or put in the place of
another. The least number of edits that turn one text into another obeys a recursion on the first
characters of the two. The rows of the edit distance are tables of these numbers for texts that are
read backwards, so that the distance is the length of a shortest script.
-/

namespace OnePass.Proofs

/-- One character of a text is inserted, deleted or replaced. -/
inductive CharEdit : Text → Text → Prop where
  | insertion (before after : Text) (ch : Char) : CharEdit (before ++ after) (before ++ ch :: after)
  | deletion (before after : Text) (ch : Char) : CharEdit (before ++ ch :: after) (before ++ after)
  | substitution (before after : Text) (ch ch' : Char) :
    CharEdit (before ++ ch :: after) (before ++ ch' :: after)

/-- So many edits, one after the other, turn one text into another. -/
inductive EditScript : Nat → Text → Text → Prop where
  | done (s : Text) : EditScript 0 s s
  | step {n : Nat} {s r t : Text} : CharEdit s r → EditScript n r t → EditScript (n + 1) s t

section Scripts

variable {n : Nat} {s r t : Text}

lemma CharEdit.behind (h : CharEdit s r) (ch : Char) : CharEdit (ch :: s) (ch :: r) := by
  cases h with
  | insertion before after x => exact .insertion (ch :: before) after x
  | deletion before after x => exact .deletion (ch :: before) after x
  | substitution before after x y => exact .substitution (ch :: before) after x y

lemma CharEdit.symm (h : CharEdit s r) : CharEdit r s := by
  cases h with
  | insertion before after x => exact .deletion before after x
  | deletion before after x => exact .insertion before after x
  | substitution before after x y => exact .substitution before after y x

lemma CharEdit.reverse (h : CharEdit s r) : CharEdit s.reverse r.reverse := by
  cases h with
  | insertion before after x => simpa using CharEdit.insertion after.reverse before.reverse x
  | deletion before after x => simpa using CharEdit.deletion after.reverse before.reverse x
  | substitution before after x y =>
    simpa using CharEdit.substitution after.reverse before.reverse x y

lemma editScript_min {m : Nat} (hm : EditScript m s t) (hn : EditScript n s t) :
    EditScript (min m n) s t := by
  rcases Nat.le_total m n with h | h
  · rwa [Nat.min_eq_left h]
  · rwa [Nat.min_eq_right h]

lemma EditScript.behind (h : EditScript n s t) (ch : Char) :
    EditScript n (ch :: s) (ch :: t) := by
  induction h with
  | done s => exact .done (ch :: s)
  | step edit _ ih => exact .step (edit.behind ch) ih

lemma EditScript.snoc (h : EditScript n s r) (edit : CharEdit r t) : EditScript (n + 1) s t := by
  induction h with
  | done s => exact .step edit (.done t)
  | step first _ ih => exact .step first (ih edit)

lemma EditScript.symm (h : EditScript n s t) : EditScript n t s := by
  induction h with
  | done s => exact .done s
  | step edit _ ih => exact ih.snoc edit.symm

lemma EditScript.reverse (h : EditScript n s t) : EditScript n s.reverse t.reverse := by
  induction h with
  | done s => exact .done s.reverse
  | step edit _ ih => exact .step edit.reverse ih

end Scripts

/-- The least number of edits that turn one text into another, by their first characters. -/
def leastEdits : Text → Text → Nat
  | [], t => t.length
  | a :: s, [] => (a :: s).length
  | a :: s, b :: t =>
    min ((if a = b then 0 else 1) + leastEdits s t)
      (1 + min (leastEdits s (b :: t)) (leastEdits (a :: s) t))
termination_by s t => s.length + t.length

section Recursion

lemma leastEdits_nil_left (t : Text) : leastEdits [] t = t.length := by
  rw [leastEdits]

lemma leastEdits_nil_right (s : Text) : leastEdits s [] = s.length := by
  cases s with
  | nil => rw [leastEdits]
  | cons a s => rw [leastEdits]

lemma leastEdits_cons_cons (a b : Char) (s t : Text) :
    leastEdits (a :: s) (b :: t) =
      min ((if a = b then 0 else 1) + leastEdits s t)
        (1 + min (leastEdits s (b :: t)) (leastEdits (a :: s) t)) := by
  rw [leastEdits]

lemma leastEdits_insertion (s t : Text) (b : Char) :
    leastEdits s (b :: t) ≤ leastEdits s t + 1 := by
  cases s with
  | nil => simp [leastEdits_nil_left]
  | cons a s =>
    rw [leastEdits_cons_cons]
    omega

lemma leastEdits_deletion (s t : Text) (a : Char) :
    leastEdits (a :: s) t ≤ leastEdits s t + 1 := by
  cases t with
  | nil => simp [leastEdits_nil_right]
  | cons b t =>
    rw [leastEdits_cons_cons]
    omega

lemma leastEdits_diagonal (a b : Char) (s t : Text) :
    leastEdits (a :: s) (b :: t) ≤ (if a = b then 0 else 1) + leastEdits s t := by
  rw [leastEdits_cons_cons]
  omega

lemma leastEdits_self (s : Text) : leastEdits s s = 0 := by
  induction s with
  | nil => exact leastEdits_nil_left []
  | cons a s ih =>
    have hdiagonal := leastEdits_diagonal a a s s
    rw [if_pos rfl] at hdiagonal
    omega

end Recursion

section Optimality

/-- From one text no text is more than one edit farther than from the other. -/
def Near (s r : Text) : Prop := ∀ t, leastEdits s t ≤ leastEdits r t + 1

/-- Two of the three edits that a script may begin with are bounded by the texts behind the first
character, the third by induction on the text that both are compared with. -/
lemma near_of_bounds {s r : Text} {a : Char}
    (hdiagonal : ∀ b t, leastEdits s (b :: t) ≤ (if a = b then 0 else 1) + leastEdits r t + 1)
    (hdeletion : ∀ t, leastEdits s t ≤ leastEdits r t + 2) : Near s (a :: r) := by
  intro t
  induction t with
  | nil =>
    have hlength := hdeletion []
    rw [leastEdits_nil_right r] at hlength
    rw [leastEdits_nil_right (a :: r), List.length_cons]
    omega
  | cons b t ih =>
    have hfirst := hdiagonal b t
    have hsecond := hdeletion (b :: t)
    have hthird := leastEdits_insertion s t b
    rw [leastEdits_cons_cons]
    omega

lemma near_deletion (s : Text) (a : Char) : Near (a :: s) s :=
  fun t => leastEdits_deletion s t a

lemma near_insertion (s : Text) (a : Char) : Near s (a :: s) := by
  apply near_of_bounds
  · intro b t
    have hinsertion := leastEdits_insertion s t b
    omega
  · intro t
    omega

lemma near_substitution (s : Text) (a a' : Char) : Near (a :: s) (a' :: s) := by
  apply near_of_bounds
  · intro b t
    have hdiagonal := leastEdits_diagonal a b s t
    split_ifs at hdiagonal
    · omega
    · omega
  · intro t
    have hdeletion := leastEdits_deletion s t a
    omega

lemma near_cons {s r : Text} (h : Near s r) (a : Char) : Near (a :: s) (a :: r) := by
  apply near_of_bounds
  · intro b t
    have hdiagonal := leastEdits_diagonal a b s t
    have hnear := h t
    omega
  · intro t
    have hdeletion := leastEdits_deletion s t a
    have hnear := h t
    omega

lemma near_append {s r : Text} (before : Text) (h : Near s r) :
    Near (before ++ s) (before ++ r) := by
  induction before with
  | nil => exact h
  | cons a before ih => exact near_cons ih a

/-- An edit brings a text nearer to any other by at most one. -/
theorem near_of_charEdit {s r : Text} (h : CharEdit s r) : Near s r := by
  cases h with
  | insertion before after a => exact near_append before (near_insertion after a)
  | deletion before after a => exact near_append before (near_deletion after a)
  | substitution before after a a' => exact near_append before (near_substitution after a a')

theorem leastEdits_le {n : Nat} {s t : Text} (h : EditScript n s t) : leastEdits s t ≤ n := by
  induction h with
  | done s => exact Nat.le_of_eq (leastEdits_self s)
  | step edit _ ih => exact (near_of_charEdit edit _).trans (Nat.succ_le_succ ih)

lemma editScript_of_nil (t : Text) : EditScript t.length [] t := by
  induction t with
  | nil => exact .done []
  | cons b t ih => exact .step (.insertion [] [] b) (ih.behind b)

theorem editScript_leastEdits (s t : Text) : EditScript (leastEdits s t) s t := by
  induction s, t using leastEdits.induct with
  | case1 t =>
    rw [leastEdits_nil_left]
    exact editScript_of_nil t
  | case2 a s =>
    rw [leastEdits_nil_right]
    exact (editScript_of_nil (a :: s)).symm
  | case3 a s b t htails hdeleted hinserted =>
    have hdiagonal : EditScript ((if a = b then 0 else 1) + leastEdits s t) (a :: s) (b :: t) := by
      split_ifs with hab
      · rw [Nat.zero_add, hab]
        exact htails.behind b
      · rw [Nat.add_comm]
        exact .step (.substitution [] s a b) (htails.behind b)
    have hdeletion : EditScript (1 + leastEdits s (b :: t)) (a :: s) (b :: t) := by
      rw [Nat.add_comm]
      exact .step (.deletion [] s a) hdeleted
    have hinsertion : EditScript (1 + leastEdits (a :: s) t) (a :: s) (b :: t) := by
      rw [Nat.add_comm]
      exact hinserted.snoc (.insertion [] t b)
    rw [leastEdits_cons_cons, ← Nat.add_min_add_left]
    exact editScript_min hdiagonal (editScript_min hdeletion hinsertion)

end Optimality

/-- The least numbers of edits from a text to `v` and to what it grows to by the characters of `t`,
all of them read backwards. -/
def distances (u v : Text) : Text → List Nat
  | [] => [leastEdits u v]
  | b :: t => leastEdits u v :: distances u (b :: v) t

section Rows

/-- Equal first characters can be passed over, since no script has fewer edits than the best one of
the rests. -/
theorem leastEdits_shortcut (a b : Char) (s t : Text) :
    leastEdits (a :: s) (b :: t) =
      if a = b then leastEdits s t
      else 1 + min (leastEdits s t) (min (leastEdits s (b :: t)) (leastEdits (a :: s) t)) := by
  have hfirst : leastEdits s t ≤ leastEdits (a :: s) t + 1 := near_insertion s a t
  have hsecond : leastEdits s t ≤ leastEdits s (b :: t) + 1 :=
    leastEdits_le ((editScript_leastEdits s (b :: t)).snoc (.deletion [] t b))
  rw [leastEdits_cons_cons]
  split_ifs
  · omega
  · omega

lemma distances_eq_cons (u v t : Text) : ∃ row, distances u v t = leastEdits u v :: row := by
  cases t with
  | nil => exact ⟨[], rfl⟩
  | cons b t => exact ⟨distances u (b :: v) t, rfl⟩

lemma range'_eq_distances (v t : Text) :
    List.range' v.length (t.length + 1) = distances [] v t := by
  induction t generalizing v with
  | nil => simp [distances, leastEdits_nil_left]
  | cons b t ih =>
    rw [distances, leastEdits_nil_left, ← ih, List.length_cons, List.range'_succ, List.length_cons]

/-- The numbers for a text, from the one for `v` on, are made from those for the text that is one
character shorter. -/
theorem restOfRow_distances (a : Char) (u v t : Text) :
    leastEdits (a :: u) v :: Text.restOfRow a (leastEdits (a :: u) v) t (distances u v t) =
      distances (a :: u) v t := by
  induction t generalizing v with
  | nil => rfl
  | cons b t ih =>
    obtain ⟨row, hrow⟩ := distances_eq_cons u (b :: v) t
    have hrest := ih (b :: v)
    rw [hrow] at hrest
    rw [distances, distances, hrow, Text.restOfRow, ← leastEdits_shortcut, hrest]

lemma nextRow_distances (a : Char) (u t : Text) :
    Text.nextRow t u.length a (distances u [] t) = distances (a :: u) [] t := by
  have hrest := restOfRow_distances a u [] t
  rwa [leastEdits_nil_right] at hrest

/-- Row after row the numbers for a text lead to those for the text that goes on with `s`. -/
theorem lastRow_distances (s t u : Text) :
    Text.lastRow t u.length (distances u [] t) s = distances (s.reverse ++ u) [] t := by
  induction s generalizing u with
  | nil => rfl
  | cons a s ih =>
    rw [Text.lastRow, nextRow_distances, List.reverse_cons, List.append_assoc, List.singleton_append]
    exact ih (a :: u)

lemma getLastD_distances (u v t : Text) (n : Nat) :
    (distances u v t).getLastD n = leastEdits u (t.reverse ++ v) := by
  induction t generalizing v n with
  | nil => rfl
  | cons b t ih =>
    rw [distances, List.getLastD_cons, ih, List.reverse_cons, List.append_assoc,
      List.singleton_append]

theorem rowDistance_eq (s t : Text) :
    Text.rowDistance s t = leastEdits s.reverse t.reverse := by
  have hstart : List.range (t.length + 1) = distances [] [] t := by
    rw [List.range_eq_range']
    exact range'_eq_distances [] t
  have hlast := lastRow_distances s t []
  rw [List.length_nil, List.append_nil] at hlast
  rw [Text.rowDistance, hstart, hlast, getLastD_distances, List.append_nil]

lemma editScript_rowDistance (s t : Text) : EditScript (Text.rowDistance s t) s t := by
  have hscript := (editScript_leastEdits s.reverse t.reverse).reverse
  rwa [List.reverse_reverse, List.reverse_reverse, ← rowDistance_eq] at hscript

lemma rowDistance_le {n : Nat} {s t : Text} (h : EditScript n s t) : Text.rowDistance s t ≤ n := by
  rw [rowDistance_eq]
  exact leastEdits_le h.reverse

end Rows

theorem editScript_editDistance (s t : Text) : EditScript (Text.editDistance s t) s t := by
  rw [Text.editDistance]
  split_ifs
  · exact (editScript_rowDistance t s).symm
  · exact editScript_rowDistance s t

theorem editDistance_le {n : Nat} {s t : Text} (h : EditScript n s t) :
    Text.editDistance s t ≤ n := by
  rw [Text.editDistance]
  split_ifs
  · exact rowDistance_le h.symm
  · exact rowDistance_le h

/-- The distance that the rows lead to is the least number of insertions, deletions and
substitutions of single characters that turn one text into the other. -/
theorem editDistance_isLeast (s t : Text) :
    IsLeast {n | EditScript n s t} (Text.editDistance s t) :=
  ⟨editScript_editDistance s t, fun _ h => editDistance_le h⟩

end OnePass.Proofs
