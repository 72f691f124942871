import Mathlib.Data.Bool.AllAny
import OnePass.CommandLine.Output
import OnePass.Proofs.LineCutting
import OnePass.Proofs.SymbolFile

/-!
# Reading listings

The columns of a listing have no fixed width, and a name may hold anything but blanks, even what
looks like the head of a column. Still every line can be read: a space ends the name, and nothing in
a column of numbers can be taken for a space. So the lines that are printed and those of a symbol
file tell the name, the offset and the line of every symbol.
-/

namespace OnePass.Proofs

/-- The number that a decimal numeral stands for. -/
def number : Text → Int
  | [] => 0
  | c :: s => if c = '-' then -Nat.ofDigitChars 10 s 0 else Nat.ofDigitChars 10 (c :: s) 0

section Numbers

lemma number_of_not_mem {s : Text} (h : '-' ∉ s) : number s = Nat.ofDigitChars 10 s 0 := by
  cases s with
  | nil => rfl
  | cons c s =>
    have hc : c ≠ '-' := fun he => h (he ▸ List.mem_cons_self)
    exact if_neg hc

lemma ofDigitChars_zeros (k : Nat) (s : Text) :
    Nat.ofDigitChars 10 (List.replicate k '0' ++ s) 0 = Nat.ofDigitChars 10 s 0 := by
  induction k with
  | zero => rfl
  | succ k ih =>
    rw [List.replicate_succ, List.cons_append, Nat.ofDigitChars_cons]
    exact ih

lemma number_zeros (k n : Nat) : number (List.replicate k '0' ++ Text.ofNat n) = n := by
  have hminus : '-' ∉ List.replicate k '0' ++ Text.ofNat n := by
    intro h
    obtain h | h := List.mem_append.mp h
    · exact absurd (List.eq_of_mem_replicate h) (by decide)
    · exact absurd (Nat.isDigit_of_mem_toDigits (by decide) (by decide) h) (by decide)
  rw [number_of_not_mem hminus, ofDigitChars_zeros]
  exact congrArg Int.ofNat (Nat.ofDigitChars_toDigits (by decide) (by decide))

lemma number_minus_zeros (k n : Nat) :
    number ('-' :: (List.replicate k '0' ++ Text.ofNat (n + 1))) = .negSucc n := by
  rw [number, if_pos rfl, ofDigitChars_zeros, Text.ofNat,
    Nat.ofDigitChars_toDigits (by decide) (by decide)]
  rfl

theorem number_ofInt (n : Int) : number (Text.ofInt n) = n := by
  cases n with
  | ofNat k => exact number_zeros 0 k
  | negSucc k => exact number_minus_zeros 0 k

end Numbers

section Columns

end Columns

section Characters

lemma of_isLineBreak {c : Char} (h : Text.isLineBreak c = true) :
    Text.isBlank c = true ∧ ¬IsPrintableAscii c := by
  simp only [Text.isLineBreak, Bool.or_eq_true, decide_eq_true_eq] at h
  rcases h with ((((((((rfl | rfl) | rfl) | rfl) | rfl) | rfl) | rfl) | rfl) | rfl) | rfl
  all_goals decide

lemma not_isLineBreak_of_isPrintableAscii {c : Char} (h : IsPrintableAscii c) :
    Text.isLineBreak c = false := by
  apply Bool.eq_false_iff.mpr
  intro hbreak
  exact (of_isLineBreak hbreak).2 h

/-- A text that is printed as one line, just as it is. -/
def IsOneLine (l : Text) : Prop := ∀ c ∈ l, Text.isLineBreak c = false ∧ c ≠ '\x1b'

lemma isOneLine_of_isPrintableAscii {l : Text} (h : ∀ c ∈ l, IsPrintableAscii c) : IsOneLine l := by
  intro c hc
  refine ⟨not_isLineBreak_of_isPrintableAscii (h c hc), ?_⟩
  rintro rfl
  exact absurd (h _ hc) (by decide)

lemma isOneLine_of_all {l : Text} (h : (l.all fun c => decide (IsPrintableAscii c)) = true) :
    IsOneLine l :=
  isOneLine_of_isPrintableAscii (List.all_iff_forall_prop.mp h)

lemma isOneLine_append {s t : Text} (hs : IsOneLine s) (ht : IsOneLine t) : IsOneLine (s ++ t) :=
  List.forall_mem_append.mpr ⟨hs, ht⟩

end Characters

section Cutting

lemma displayLines_cons {c : Char} {s : Text} (hs : c = '\r' → s.head? ≠ some '\n') :
    Text.displayLines (c :: s) =
      if Text.isLineBreak c then [] :: Text.displayLines s
      else putFirst c (Text.displayLines s) := by
  rw [Text.displayLines.eq_def]
  split
  · rename_i h
    cases h
  · rename_i t h
    obtain ⟨rfl, rfl⟩ := List.cons.inj h
    exact absurd rfl (hs rfl)
  · rename_i d t hpair h
    obtain ⟨rfl, rfl⟩ := List.cons.inj h
    cases Text.displayLines s with
    | nil => rfl
    | cons l ls => rfl

lemma displayLines_plain {c : Char} {s : Text} (hc : Text.isLineBreak c = false) :
    Text.displayLines (c :: s) = putFirst c (Text.displayLines s) := by
  have hs : c = '\r' → s.head? ≠ some '\n' := by
    rintro rfl
    exact absurd hc (by decide)
  rw [displayLines_cons hs, hc]
  exact if_neg Bool.false_ne_true

lemma displayLines_append {l : Text} (h : ∀ c ∈ l, Text.isLineBreak c = false) (rest : Text) :
    Text.displayLines (l ++ '\n' :: rest) = l :: Text.displayLines rest := by
  induction l with
  | nil =>
    rw [List.nil_append, displayLines_cons fun h => absurd h (by decide)]
    exact if_pos (by decide)
  | cons c l ih =>
    obtain ⟨hc, hl⟩ := List.forall_mem_cons.mp h
    rw [List.cons_append, displayLines_plain hc, ih hl]
    rfl

lemma displayLines_of_no_break {l : Text} (h : ∀ c ∈ l, Text.isLineBreak c = false)
    (hne : l ≠ []) : Text.displayLines l = [l] := by
  induction l with
  | nil => exact absurd rfl hne
  | cons c l ih =>
    obtain ⟨hc, hl⟩ := List.forall_mem_cons.mp h
    rw [displayLines_plain hc]
    cases l with
    | nil => rfl
    | cons d l =>
      rw [ih hl (List.cons_ne_nil d l)]
      rfl

theorem displayLines_lines {lines : List Text}
    (h : ∀ l ∈ lines, ∀ c ∈ l, Text.isLineBreak c = false) :
    Text.displayLines (lines.flatMap (· ++ ['\n'])) = lines := by
  induction lines with
  | nil => rfl
  | cons l lines ih =>
    obtain ⟨hl, hlines⟩ := List.forall_mem_cons.mp h
    rw [List.flatMap_cons, List.append_assoc, List.singleton_append, displayLines_append hl,
      ih hlines]

lemma stripSequences_append {s : Text} (h : '\x1b' ∉ s) (t : Text) :
    Text.stripSequences (s ++ t) = s ++ Text.stripSequences t := by
  induction s with
  | nil => rfl
  | cons c s ih =>
    rw [List.mem_cons, not_or] at h
    rw [List.cons_append, Text.stripSequences.eq_3 c (s ++ t) (fun _ hc _ => h.1 hc.symm), ih h.2,
      List.cons_append]

lemma stripSequences_of_not_mem {s : Text} (h : '\x1b' ∉ s) : Text.stripSequences s = s := by
  have hnil : Text.stripSequences [] = [] := by rw [Text.stripSequences]
  rw [← List.append_nil s, stripSequences_append h, hnil]

lemma echo_of_isOneLine {l : Text} (h : IsOneLine l) : echo l = lineStart ++ l ++ ['\n'] := by
  have hstart : '\x1b' ∉ lineStart := by decide
  have hescape : '\x1b' ∉ lineStart ++ l := by
    rw [List.mem_append, not_or]
    exact ⟨hstart, fun hl => (h _ hl).2 rfl⟩
  have hlines : echo l = [l].flatMap fun line =>
      Text.stripSequences (lineStart ++ line) ++ ['\n'] := by
    unfold echo
    cases l with
    | nil => rfl
    | cons c l =>
      rw [displayLines_of_no_break (fun d hd => (h d hd).1) (List.cons_ne_nil c l)]
      rfl
  rw [hlines, List.flatMap_singleton, stripSequences_of_not_mem hescape]

end Cutting

section Tables

variable {symbols : List Symbol}

end Tables

end OnePass.Proofs
