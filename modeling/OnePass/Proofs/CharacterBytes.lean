import Mathlib.Data.List.Basic
import OnePass.Encoding.Scheme

/-!
# The bytes of a character

The bytes that a scheme writes for a character are read as this character, whatever follows them.
Cut short they are neither a character nor damage, so that a reader that gets them in two parts
waits for the second.
-/

namespace OnePass.Proofs

/-- Bytes that stand for a character in a scheme. -/
structure StandsFor (s : Scheme) (bytes : Bytes) (c : Char) : Prop where
  ne_nil : bytes ≠ []
  whole : ∀ rest, s.read (bytes ++ rest) = .char c bytes.length
  part : ∀ p q, p ≠ [] → q ≠ [] → bytes = p ++ q →
    ∃ size damage, s.read p = .incomplete size damage

lemma toNat_ofNat_of_lt {n : Nat} (h : n < 0x100) : (UInt8.ofNat n).toNat = n := by
  rw [UInt8.toNat_ofNat']
  exact Nat.mod_eq_of_lt h

lemma toNat_bounds (c : Char) : c.toNat < 0xD800 ∨ 0xDFFF < c.toNat ∧ c.toNat < 0x110000 := c.valid

lemma length_part_lt {bytes p q : Bytes} (hq : q ≠ []) (he : bytes = p ++ q) :
    p.length < bytes.length := by
  have hpos := List.length_pos_iff.mpr hq
  rw [he, List.length_append]
  omega

lemma standsFor_singleton {s : Scheme} {b : UInt8} {c : Char}
    (h : ∀ rest, s.read (b :: rest) = .char c 1) : StandsFor s [b] c := by
  refine ⟨by simp, h, ?_⟩
  intro p q hp hq he
  have hlen := length_part_lt hq he
  rw [List.length_singleton, Nat.lt_one_iff, List.length_eq_zero_iff] at hlen
  exact absurd hlen hp

section Utf8

/-- A byte that goes on with a character. -/
def IsContinuation (b : UInt8) : Prop := 0x80 ≤ b.toNat ∧ b.toNat ≤ 0xBF

/-- The number that a continuation byte makes of the number before it. -/
def continued (code : Nat) (b : UInt8) : Nat := code * 0x40 + (b.toNat - 0x80)

lemma isContinuation_ofNat (n : Nat) : IsContinuation (UInt8.ofNat (0x80 + n % 0x40)) := by
  unfold IsContinuation
  rw [toNat_ofNat_of_lt (by omega)]
  omega

lemma continued_ofNat (code n : Nat) :
    continued code (UInt8.ofNat (0x80 + n % 0x40)) = code * 0x40 + n % 0x40 := by
  unfold continued
  rw [toNat_ofNat_of_lt (by omega)]
  omega

lemma readContinuation_cons {b : UInt8} (hb : IsContinuation b) (size code n : Nat) (rest : Bytes) :
    readContinuation size code (n + 1) (b :: rest) =
      readContinuation (size + 1) (continued code b) n rest :=
  if_pos hb

lemma readContinuation_append {bs : Bytes} (h : ∀ b ∈ bs, IsContinuation b) (size code : Nat)
    (rest : Bytes) : readContinuation size code bs.length (bs ++ rest) =
      .char (Char.ofNat (bs.foldl continued code)) (size + bs.length) := by
  induction bs generalizing size code with
  | nil => rfl
  | cons b bs ih =>
    obtain ⟨hb, hbs⟩ := List.forall_mem_cons.mp h
    rw [List.length_cons, List.cons_append, readContinuation_cons hb, ih hbs, List.foldl_cons,
      Nat.add_assoc, Nat.add_comm 1]

lemma readContinuation_incomplete {bs : Bytes} (h : ∀ b ∈ bs, IsContinuation b) (size code : Nat)
    {n : Nat} (hn : bs.length < n) :
    readContinuation size code n bs = .incomplete (size + bs.length) .unexpectedEnd := by
  induction bs generalizing size code n with
  | nil =>
    cases n with
    | zero => cases hn
    | succ n => rfl
  | cons b bs ih =>
    obtain ⟨hb, hbs⟩ := List.forall_mem_cons.mp h
    cases n with
    | zero => cases hn
    | succ n =>
      rw [readContinuation_cons hb, ih hbs _ _ (Nat.lt_of_succ_lt_succ hn), List.length_cons,
        Nat.add_assoc, Nat.add_comm 1]

/-- What the first byte of a character tells about the bytes behind it. -/
structure Leads (c : Char) (a b : UInt8) (others : Bytes) (code low high : Nat) : Prop where
  first : ∀ rest, rest = [] ∨ rest.head? = some b →
    readUtf8 (a :: rest) = readSecond code low high others.length rest
  second : low ≤ b.toNat ∧ b.toNat ≤ high
  continues : ∀ b ∈ others, IsContinuation b
  number : others.foldl continued (continued code b) = c.toNat

lemma standsFor_of_leads {c : Char} {a b : UInt8} {others : Bytes} {code low high : Nat}
    (h : Leads c a b others code low high) : StandsFor .utf8 (a :: b :: others) c := by
  have hsecond : ∀ rest, readSecond code low high others.length (b :: rest) =
      readContinuation 2 (continued code b) others.length rest := fun _ => if_pos h.second
  refine ⟨by simp, ?_, ?_⟩
  · intro rest
    change readUtf8 (a :: b :: (others ++ rest)) = _
    rw [h.first _ (Or.inr rfl), hsecond, readContinuation_append h.continues, h.number,
      Char.ofNat_toNat, List.length_cons, List.length_cons, Nat.add_comm 2]
  · intro p q hp hq he
    match p with
    | [] => exact absurd rfl hp
    | [a'] =>
      simp only [List.cons_append, List.cons.injEq] at he
      obtain ⟨rfl, -⟩ := he
      exact ⟨1, .unexpectedEnd, h.first [] (Or.inl rfl)⟩
    | a' :: b' :: p =>
      simp only [List.cons_append, List.cons.injEq] at he
      obtain ⟨rfl, rfl, rfl⟩ := he
      have hlen : p.length < (p ++ q).length := length_part_lt hq rfl
      have hcontinues : ∀ b ∈ p, IsContinuation b :=
        fun b hb => h.continues b (List.mem_append_left q hb)
      refine ⟨2 + p.length, .unexpectedEnd, ?_⟩
      change readUtf8 (a :: b :: p) = _
      rw [h.first _ (Or.inr rfl), hsecond, readContinuation_incomplete hcontinues _ _ hlen]

lemma readBelowSurrogates_eq {b : UInt8} (hb : b.toNat ≤ 0x9F) {rest : Bytes}
    (h : rest = [] ∨ rest.head? = some b) :
    readBelowSurrogates rest = readSecond 0xD 0x80 0x9F 1 rest := by
  match rest with
  | [] => rfl
  | [b'] =>
    obtain rfl : b' = b := by simpa using h
    have hnot : ¬(0xA0 ≤ b'.toNat ∧ b'.toNat ≤ 0xBF) := by omega
    rw [readBelowSurrogates, if_neg hnot]
  | _ :: _ :: _ => rfl

lemma leads_of_two {c : Char} (hlow : 0x80 ≤ c.toNat) (hhigh : c.toNat < 0x800) :
    Leads c (UInt8.ofNat (0xC0 + c.toNat / 0x40)) (UInt8.ofNat (0x80 + c.toNat % 0x40)) []
      (c.toNat / 0x40) 0x80 0xBF := by
  have ha : (UInt8.ofNat (0xC0 + c.toNat / 0x40)).toNat = 0xC0 + c.toNat / 0x40 :=
    toNat_ofNat_of_lt (by omega)
  refine ⟨?_, isContinuation_ofNat _, by simp, ?_⟩
  · intro rest _
    rw [readUtf8, ha, if_neg (by omega), if_neg (by omega), if_pos (by omega), Nat.add_sub_cancel_left]
    rfl
  · rw [List.foldl_nil, continued_ofNat]
    omega

/-- The bounds on the second byte of a character of three bytes, given the number in the first. -/
def secondOfThree (code : Nat) : Nat × Nat :=
  if code = 0 then (0xA0, 0xBF) else if code = 0xD then (0x80, 0x9F) else (0x80, 0xBF)

lemma leads_of_three {c : Char} (hlow : 0x800 ≤ c.toNat) (hhigh : c.toNat < 0x10000) :
    Leads c (UInt8.ofNat (0xE0 + c.toNat / 0x1000)) (UInt8.ofNat (0x80 + c.toNat / 0x40 % 0x40))
      [UInt8.ofNat (0x80 + c.toNat % 0x40)] (c.toNat / 0x1000)
      (secondOfThree (c.toNat / 0x1000)).1 (secondOfThree (c.toNat / 0x1000)).2 := by
  have hvalid := toNat_bounds c
  have ha : (UInt8.ofNat (0xE0 + c.toNat / 0x1000)).toNat = 0xE0 + c.toNat / 0x1000 :=
    toNat_ofNat_of_lt (by omega)
  have hb : (UInt8.ofNat (0x80 + c.toNat / 0x40 % 0x40)).toNat = 0x80 + c.toNat / 0x40 % 0x40 :=
    toNat_ofNat_of_lt (by omega)
  refine ⟨?_, ?_, ?_, ?_⟩
  · intro rest hrest
    rw [readUtf8, ha, if_neg (by omega), if_neg (by omega), if_neg (by omega)]
    unfold secondOfThree
    by_cases h0 : c.toNat / 0x1000 = 0
    · rw [if_pos (by omega), h0]
      rfl
    · rw [if_neg (by omega), if_neg h0]
      by_cases hd : c.toNat / 0x1000 = 0xD
      · rw [if_pos (by omega), if_pos hd, readBelowSurrogates_eq (by omega) hrest, hd]
        rfl
      · rw [if_neg (by omega), if_pos (by omega), if_neg hd, Nat.add_sub_cancel_left]
        rfl
  · unfold secondOfThree
    rw [hb]
    split_ifs with h0 hd
    · exact ⟨by omega, by omega⟩
    · exact ⟨by omega, by omega⟩
    · exact ⟨by omega, by omega⟩
  · intro b hmem
    rw [List.mem_singleton.mp hmem]
    exact isContinuation_ofNat _
  · rw [List.foldl_cons, List.foldl_nil, continued_ofNat, continued_ofNat]
    omega

/-- The bounds on the second byte of a character of four bytes, given the number in the first. -/
def secondOfFour (code : Nat) : Nat × Nat :=
  if code = 0 then (0x90, 0xBF) else if code = 4 then (0x80, 0x8F) else (0x80, 0xBF)

lemma leads_of_four {c : Char} (hlow : 0x10000 ≤ c.toNat) :
    Leads c (UInt8.ofNat (0xF0 + c.toNat / 0x40000))
      (UInt8.ofNat (0x80 + c.toNat / 0x1000 % 0x40))
      [UInt8.ofNat (0x80 + c.toNat / 0x40 % 0x40), UInt8.ofNat (0x80 + c.toNat % 0x40)]
      (c.toNat / 0x40000) (secondOfFour (c.toNat / 0x40000)).1
      (secondOfFour (c.toNat / 0x40000)).2 := by
  have hvalid := toNat_bounds c
  have ha : (UInt8.ofNat (0xF0 + c.toNat / 0x40000)).toNat = 0xF0 + c.toNat / 0x40000 :=
    toNat_ofNat_of_lt (by omega)
  have hb : (UInt8.ofNat (0x80 + c.toNat / 0x1000 % 0x40)).toNat =
      0x80 + c.toNat / 0x1000 % 0x40 := toNat_ofNat_of_lt (by omega)
  refine ⟨?_, ?_, ?_, ?_⟩
  · intro rest _
    rw [readUtf8, ha, if_neg (by omega), if_neg (by omega), if_neg (by omega), if_neg (by omega),
      if_neg (by omega), if_neg (by omega)]
    unfold secondOfFour
    by_cases h0 : c.toNat / 0x40000 = 0
    · rw [if_pos (by omega), h0]
      rfl
    · rw [if_neg (by omega), if_neg h0]
      by_cases h4 : c.toNat / 0x40000 = 4
      · rw [if_neg (by omega), if_pos (by omega), if_pos h4, h4]
        rfl
      · rw [if_pos (by omega), if_neg h4, Nat.add_sub_cancel_left]
        rfl
  · unfold secondOfFour
    rw [hb]
    split_ifs with h0 h4
    · exact ⟨by omega, by omega⟩
    · exact ⟨by omega, by omega⟩
    · exact ⟨by omega, by omega⟩
  · intro b hmem
    rw [List.mem_cons, List.mem_singleton] at hmem
    obtain rfl | rfl := hmem
    · exact isContinuation_ofNat _
    · exact isContinuation_ofNat _
  · rw [List.foldl_cons, List.foldl_cons, List.foldl_nil, continued_ofNat, continued_ofNat,
      continued_ofNat]
    omega

theorem standsFor_writeUtf8 (c : Char) : StandsFor .utf8 (writeUtf8 c) c := by
  unfold writeUtf8
  dsimp only
  by_cases h1 : c.toNat < 0x80
  · rw [if_pos h1]
    apply standsFor_singleton
    intro rest
    have ha : (UInt8.ofNat c.toNat).toNat = c.toNat := toNat_ofNat_of_lt (by omega)
    rw [Scheme.read, readUtf8, ha, if_pos h1, Char.ofNat_toNat]
  · rw [if_neg h1]
    by_cases h2 : c.toNat < 0x800
    · rw [if_pos h2]
      exact standsFor_of_leads (leads_of_two (by omega) h2)
    · rw [if_neg h2]
      by_cases h3 : c.toNat < 0x10000
      · rw [if_pos h3]
        exact standsFor_of_leads (leads_of_three (by omega) h3)
      · rw [if_neg h3]
        exact standsFor_of_leads (leads_of_four (by omega))

end Utf8

section Utf16

variable {order : ByteOrder}

lemma split_eq (order : ByteOrder) {n : Nat} (h : n < 0x10000) :
    ∃ a b, order.split n = [a, b] ∧ order.join a b = n := by
  have hlow : (UInt8.ofNat (n % 0x100)).toNat = n % 0x100 := toNat_ofNat_of_lt (by omega)
  have hhigh : (UInt8.ofNat (n / 0x100)).toNat = n / 0x100 := toNat_ofNat_of_lt (by omega)
  cases order with
  | little =>
    refine ⟨_, _, rfl, ?_⟩
    rw [ByteOrder.join, hlow, hhigh]
    omega
  | big =>
    refine ⟨_, _, rfl, ?_⟩
    rw [ByteOrder.join, hlow, hhigh]
    omega

lemma readUtf16_of_unit {a b : UInt8} (h : order.join a b < 0xD800 ∨ 0xE000 ≤ order.join a b)
    (rest : Bytes) : readUtf16 order (a :: b :: rest) = .char (Char.ofNat (order.join a b)) 2 :=
  if_pos h

lemma readUtf16_of_high {a b : UInt8} (hlow : 0xD800 ≤ order.join a b)
    (hhigh : order.join a b < 0xDC00) {rest : Bytes} (hrest : rest.length < 2) :
    readUtf16 order (a :: b :: rest) = .incomplete (2 + rest.length) .unexpectedEnd := by
  have hunit : ¬(order.join a b < 0xD800 ∨ 0xE000 ≤ order.join a b) := by omega
  have hpaired : ¬0xDC00 ≤ order.join a b := by omega
  match rest with
  | [] => exact (if_neg hunit).trans (if_neg hpaired)
  | [_] => exact (if_neg hunit).trans (if_neg hpaired)
  | _ :: _ :: _ =>
    simp only [List.length_cons] at hrest
    omega

lemma readUtf16_of_pair {a b d e : UInt8} (hlow : 0xD800 ≤ order.join a b)
    (hhigh : order.join a b < 0xDC00) (hsecond : 0xDC00 ≤ order.join d e ∧ order.join d e < 0xE000)
    (rest : Bytes) : readUtf16 order (a :: b :: d :: e :: rest) =
      .char (Char.ofNat (0x10000 + (order.join a b - 0xD800) * 0x400 + (order.join d e - 0xDC00)))
        4 := by
  have hunit : ¬(order.join a b < 0xD800 ∨ 0xE000 ≤ order.join a b) := by omega
  have hpaired : ¬0xDC00 ≤ order.join a b := by omega
  exact (if_neg hunit).trans ((if_neg hpaired).trans (if_pos hsecond))

lemma standsFor_of_unit {c : Char} {a b : UInt8} (h : order.join a b = c.toNat) :
    StandsFor (.utf16 order) [a, b] c := by
  have hvalid := toNat_bounds c
  refine ⟨by simp, ?_, ?_⟩
  · intro rest
    change readUtf16 order (a :: b :: rest) = _
    rw [readUtf16_of_unit (by omega), h, Char.ofNat_toNat]
    rfl
  · intro p q hp hq he
    match p with
    | [] => exact absurd rfl hp
    | [_] => exact ⟨1, .truncated, rfl⟩
    | _ :: _ :: p =>
      have hlen := length_part_lt hq he
      simp only [List.length_cons, List.length_nil] at hlen
      omega

lemma standsFor_of_surrogates {c : Char} {a b d e : UInt8} (hlow : 0x10000 ≤ c.toNat)
    (hfirst : order.join a b = 0xD800 + (c.toNat - 0x10000) / 0x400)
    (hsecond : order.join d e = 0xDC00 + (c.toNat - 0x10000) % 0x400) :
    StandsFor (.utf16 order) [a, b, d, e] c := by
  have hvalid := toNat_bounds c
  have hnumber : 0x10000 + (order.join a b - 0xD800) * 0x400 + (order.join d e - 0xDC00) =
      c.toNat := by
    rw [hfirst, hsecond]
    omega
  refine ⟨by simp, ?_, ?_⟩
  · intro rest
    change readUtf16 order (a :: b :: d :: e :: rest) = _
    rw [readUtf16_of_pair (by omega) (by omega) (by omega), hnumber, Char.ofNat_toNat]
    rfl
  · intro p q hp hq he
    have hwaits (rest : Bytes) (hrest : rest.length < 2) : (Scheme.utf16 order).read
        (a :: b :: rest) = .incomplete (2 + rest.length) .unexpectedEnd :=
      readUtf16_of_high (by omega) (by omega) hrest
    match p with
    | [] => exact absurd rfl hp
    | [_] => exact ⟨1, .truncated, rfl⟩
    | [a', b'] =>
      simp only [List.cons_append, List.cons.injEq] at he
      obtain ⟨rfl, rfl, -⟩ := he
      exact ⟨_, _, hwaits [] (by decide)⟩
    | [a', b', d'] =>
      simp only [List.cons_append, List.cons.injEq] at he
      obtain ⟨rfl, rfl, -⟩ := he
      exact ⟨_, _, hwaits [d'] (by simp)⟩
    | _ :: _ :: _ :: _ :: p =>
      have hlen := length_part_lt hq he
      simp only [List.length_cons, List.length_nil] at hlen
      omega

theorem standsFor_writeUtf16 (order : ByteOrder) (c : Char) :
    StandsFor (.utf16 order) (writeUtf16 order c) c := by
  have hvalid := toNat_bounds c
  unfold writeUtf16
  dsimp only
  by_cases h : c.toNat < 0x10000
  · rw [if_pos h]
    obtain ⟨a, b, hsplit, hjoin⟩ := split_eq order h
    rw [hsplit]
    exact standsFor_of_unit hjoin
  · rw [if_neg h]
    obtain ⟨a, b, hsplit, hfirst⟩ :=
      split_eq order (show 0xD800 + (c.toNat - 0x10000) / 0x400 < 0x10000 by omega)
    obtain ⟨d, e, hsplit', hsecond⟩ :=
      split_eq order (show 0xDC00 + (c.toNat - 0x10000) % 0x400 < 0x10000 by omega)
    rw [hsplit, hsplit']
    exact standsFor_of_surrogates (by omega) hfirst hsecond

end Utf16

/-- The bytes that a scheme writes for a character stand for this character. -/
theorem standsFor_writeChar {s : Scheme} {c : Char} (h : s.canWrite c = true) :
    StandsFor s (s.writeChar c) c := by
  cases s with
  | utf8 => exact standsFor_writeUtf8 c
  | utf16 order => exact standsFor_writeUtf16 order c
  | latin1 =>
    have hlimit : c.toNat < 0x100 := of_decide_eq_true h
    apply standsFor_singleton
    intro rest
    rw [Scheme.read, toNat_ofNat_of_lt hlimit, Char.ofNat_toNat]
  | ascii =>
    have hlimit : c.toNat < 0x80 := of_decide_eq_true h
    apply standsFor_singleton
    intro rest
    rw [Scheme.read, toNat_ofNat_of_lt (by omega), if_pos hlimit, Char.ofNat_toNat]

end OnePass.Proofs
