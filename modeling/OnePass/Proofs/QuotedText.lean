import OnePass.Proofs.ListingLines
import OnePass.Text.Quoted

/-!
# Quoted texts can be read back

Inside quotes a character stands for itself, or a backslash tells how it is to be read: a letter
says how many hexadecimal digits follow, three letters stand for characters of their own, and
anything else is meant as it is. So one character after the other can be read back, and no two texts
have the same quoted form. The quoted form is printed as one line, just as it is.
-/

namespace OnePass.Proofs

/-- The value of a hexadecimal digit in lower case. -/
def hexDigitValue (c : Char) : Nat := if c.toNat < 0x3A then c.toNat - 0x30 else c.toNat - 0x57

/-- The number that a hexadecimal numeral stands for. -/
def hexNumber (s : Text) : Nat := s.foldl (fun n c => n * 16 + hexDigitValue c) 0

def escapeWidth? : Char → Option Nat
  | 'x' => some 2
  | 'u' => some 4
  | 'U' => some 8
  | _ => none

/-- What a character behind a backslash stands for, if no digits follow. -/
def unescaped : Char → Char
  | 't' => '\t'
  | 'n' => '\n'
  | 'r' => '\r'
  | c => c

/-- Reads what follows a backslash: the character that is meant, and what comes after it. -/
def escaped? : Text → Option (Char × Text)
  | [] => none
  | c :: s =>
    match escapeWidth? c with
    | some width => some (Char.ofNat (hexNumber (s.take width)), s.drop width)
    | none => some (unescaped c, s)

/-- Reads one character inside quotes: the character, and what comes after it. -/
def nextQuoted? : Text → Option (Char × Text)
  | [] => none
  | c :: s => if c = '\\' then escaped? s else some (c, s)

/-- The two characters that can enclose a quoted text. -/
def IsQuote (c : Char) : Prop := c = '\'' ∨ c = '"'

section Digits

lemma hexDigitValue_digitChar : ∀ d < 16, hexDigitValue d.digitChar = d := by decide

lemma hexNumber_concat (s : Text) (c : Char) :
    hexNumber (s ++ [c]) = hexNumber s * 16 + hexDigitValue c := by
  rw [hexNumber, List.foldl_append]
  rfl

lemma hexNumber_toDigits (n : Nat) : hexNumber (Nat.toDigits 16 n) = n := by
  induction n using Nat.strongRecOn with
  | ind n ih =>
    rw [Nat.toDigits_eq_if (by decide)]
    split_ifs with hn
    · exact (Nat.zero_add _).trans (hexDigitValue_digitChar n hn)
    · have hdigit := hexDigitValue_digitChar (n % 16) (Nat.mod_lt n (by decide))
      rw [hexNumber_concat, ih (n / 16) (by omega), hdigit]
      omega

lemma hexNumber_hexDigits (width n : Nat) : hexNumber (Text.hexDigits width n) = n := by
  have hzeros : ∀ k, List.foldl (fun n c => n * 16 + hexDigitValue c) 0
      (List.replicate k '0') = 0 := by
    intro k
    induction k with
    | zero => rfl
    | succ k ih => exact ih
  unfold Text.hexDigits
  dsimp only
  rw [hexNumber, List.foldl_append, hzeros]
  exact hexNumber_toDigits n

lemma length_hexDigits {width n : Nat} (h : (Nat.toDigits 16 n).length ≤ width) :
    (Text.hexDigits width n).length = width := by
  unfold Text.hexDigits
  dsimp only
  rw [List.length_append, List.length_replicate]
  omega

lemma isPrintableAscii_digitChar : ∀ d < 16, IsPrintableAscii d.digitChar := by decide

lemma isPrintableAscii_toDigits (n : Nat) : ∀ c ∈ Nat.toDigits 16 n, IsPrintableAscii c := by
  induction n using Nat.strongRecOn with
  | ind n ih =>
    rw [Nat.toDigits_eq_if (by decide)]
    split_ifs with hn
    · exact List.forall_mem_singleton.mpr (isPrintableAscii_digitChar n hn)
    · rw [List.forall_mem_append, List.forall_mem_singleton]
      exact ⟨ih (n / 16) (by omega), isPrintableAscii_digitChar _ (Nat.mod_lt n (by decide))⟩

end Digits

section Reading

lemma nextQuoted?_letter {c : Char} (hc : escapeWidth? c = none) (s : Text) :
    nextQuoted? ('\\' :: c :: s) = some (unescaped c, s) := by
  rw [nextQuoted?, if_pos rfl, escaped?, hc]

lemma nextQuoted?_plain {c : Char} (hc : c ≠ '\\') (s : Text) :
    nextQuoted? (c :: s) = some (c, s) := by
  rw [nextQuoted?, if_neg hc]

lemma nextQuoted?_codePointEscape (c : Char) (s : Text) :
    nextQuoted? (Text.codePointEscape c ++ s) = some (c, s) := by
  have hnumeral : ∀ {letter : Char} {width : Nat}, escapeWidth? letter = some width → 0 < width →
      c.toNat < 16 ^ width →
        nextQuoted? ('\\' :: letter :: (Text.hexDigits width c.toNat ++ s)) = some (c, s) := by
    intro letter width hletter hwidth hc
    have hlength := length_hexDigits ((Nat.length_toDigits_le_iff (by decide) hwidth).mpr hc)
    rw [nextQuoted?, if_pos rfl, escaped?, hletter]
    dsimp only
    rw [List.take_left' hlength, List.drop_left' hlength, hexNumber_hexDigits, Char.ofNat_toNat]
  have height : c.toNat < 16 ^ 8 := c.val.toNat_lt
  unfold Text.codePointEscape
  split_ifs with htwo hfour
  · exact hnumeral rfl (by decide) htwo
  · exact hnumeral rfl (by decide) hfour
  · exact hnumeral rfl (by decide) height

theorem nextQuoted?_quotedChar {quote : Char} (hquote : IsQuote quote) (c : Char) (s : Text) :
    nextQuoted? (Text.quotedChar quote c ++ s) = some (c, s) := by
  unfold Text.quotedChar
  split_ifs with hmark htab hfeed hreturn hprintable
  · obtain rfl | rfl := hmark
    · obtain rfl | rfl := hquote
      · exact nextQuoted?_letter rfl s
      · exact nextQuoted?_letter rfl s
    · exact nextQuoted?_letter rfl s
  · rw [htab]
    exact nextQuoted?_letter rfl s
  · rw [hfeed]
    exact nextQuoted?_letter rfl s
  · rw [hreturn]
    exact nextQuoted?_letter rfl s
  · exact nextQuoted?_plain (fun h => hmark (Or.inr h)) s
  · exact nextQuoted?_codePointEscape c s

lemma isQuote_quoteFor (s : Text) : IsQuote (Text.quoteFor s) := by
  unfold Text.quoteFor
  split_ifs
  · exact Or.inr rfl
  · exact Or.inl rfl

lemma quotedChar_append_inj {quote : Char} (hquote : IsQuote quote) {c d : Char} {s t : Text}
    (h : Text.quotedChar quote c ++ s = Text.quotedChar quote d ++ t) : c = d ∧ s = t := by
  have hread := nextQuoted?_quotedChar hquote c s
  rw [h, nextQuoted?_quotedChar hquote d t] at hread
  obtain ⟨rfl, rfl⟩ := Prod.mk.inj (Option.some.inj hread)
  exact ⟨rfl, rfl⟩

lemma quotedChar_ne_nil (quote c : Char) : Text.quotedChar quote c ≠ [] := by
  unfold Text.quotedChar Text.codePointEscape
  split_ifs
  all_goals exact List.cons_ne_nil _ _

lemma flatMap_quotedChar_injective {quote : Char} (hquote : IsQuote quote) :
    Function.Injective fun s : Text => s.flatMap (Text.quotedChar quote) := by
  intro s t h
  have hnil : ∀ c (rest : Text), [] ≠ (c :: rest).flatMap (Text.quotedChar quote) := by
    intro c rest he
    rw [List.flatMap_cons] at he
    exact quotedChar_ne_nil quote c (List.append_eq_nil_iff.mp he.symm).1
  induction s generalizing t with
  | nil =>
    cases t with
    | nil => rfl
    | cons d t => exact absurd h (hnil d t)
  | cons c s ih =>
    cases t with
    | nil => exact absurd h.symm (hnil c s)
    | cons d t =>
      dsimp only at h
      rw [List.flatMap_cons, List.flatMap_cons] at h
      obtain ⟨rfl, hrest⟩ := quotedChar_append_inj hquote h
      rw [ih hrest]

theorem quoted_injective : Function.Injective Text.quoted := by
  intro s t h
  obtain ⟨hquote, hbody⟩ := List.cons.inj h
  rw [← hquote] at hbody
  exact flatMap_quotedChar_injective (isQuote_quoteFor s) (List.append_cancel_right hbody)

end Reading

section Printing

lemma isOneLine_of_isPrintable {c : Char} (h : Text.isPrintable c = true) : IsOneLine [c] := by
  intro d hd
  obtain rfl := List.mem_singleton.mp hd
  refine ⟨?_, ?_⟩
  · apply Bool.eq_false_iff.mpr
    intro hbreak
    simp only [Text.isLineBreak, Bool.or_eq_true, decide_eq_true_eq] at hbreak
    rcases hbreak with ((((((((rfl | rfl) | rfl) | rfl) | rfl) | rfl) | rfl) | rfl) | rfl) | rfl
    all_goals exact absurd h (by decide +kernel)
  · rintro rfl
    exact absurd h (by decide)

lemma isOneLine_codePointEscape (c : Char) : IsOneLine (Text.codePointEscape c) := by
  have hnumeral : ∀ {letter : Char} (width : Nat), IsPrintableAscii letter →
      IsOneLine ('\\' :: letter :: Text.hexDigits width c.toNat) := by
    intro letter width hletter
    apply isOneLine_of_isPrintableAscii
    refine List.forall_mem_cons.mpr ⟨by decide, List.forall_mem_cons.mpr ⟨hletter, ?_⟩⟩
    unfold Text.hexDigits
    refine List.forall_mem_append.mpr ⟨fun d hd => ?_, isPrintableAscii_toDigits c.toNat⟩
    rw [List.eq_of_mem_replicate hd]
    decide
  unfold Text.codePointEscape
  split_ifs
  · exact hnumeral 2 (by decide)
  · exact hnumeral 4 (by decide)
  · exact hnumeral 8 (by decide)

lemma isOneLine_quotedChar {quote : Char} (hquote : IsQuote quote) (c : Char) :
    IsOneLine (Text.quotedChar quote c) := by
  have hascii : ∀ {letter : Char}, IsPrintableAscii letter → IsOneLine ['\\', letter] := by
    intro letter hletter
    apply isOneLine_of_isPrintableAscii
    exact List.forall_mem_cons.mpr ⟨by decide, List.forall_mem_singleton.mpr hletter⟩
  unfold Text.quotedChar
  split_ifs with hmark _ _ _ hprintable
  · obtain rfl | rfl := hmark
    · obtain rfl | rfl := hquote
      · exact hascii (by decide)
      · exact hascii (by decide)
    · exact hascii (by decide)
  · exact hascii (by decide)
  · exact hascii (by decide)
  · exact hascii (by decide)
  · exact isOneLine_of_isPrintable hprintable
  · exact isOneLine_codePointEscape c

theorem isOneLine_quoted (s : Text) : IsOneLine (Text.quoted s) := by
  have hquote := isQuote_quoteFor s
  have hends : IsOneLine [Text.quoteFor s] := by
    obtain h | h := hquote
    · rw [h]
      exact isOneLine_of_isPrintable (by decide)
    · rw [h]
      exact isOneLine_of_isPrintable (by decide)
  have hbody : IsOneLine (s.flatMap (Text.quotedChar (Text.quoteFor s))) := by
    intro d hd
    obtain ⟨c, -, hc⟩ := List.mem_flatMap.mp hd
    exact isOneLine_quotedChar hquote c d hc
  exact isOneLine_append (isOneLine_append hends hbody) hends

end Printing

end OnePass.Proofs
