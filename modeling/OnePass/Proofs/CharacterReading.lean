import Mathlib.Data.List.Basic
import OnePass.Proofs.CharacterBytes

/-!
# Reading a character

Reading finds a character only where the bytes that are written for it stand: no long form, no
surrogate and no number beyond the last code point passes for one. So bytes at which no character is
found are bytes that no written text goes on with.
-/

namespace OnePass.Proofs

lemma toNat_ofNat_of_isValidChar {n : Nat} (h : n.isValidChar) : (Char.ofNat n).toNat = n := by
  rw [Char.ofNat, dif_pos h]
  rfl

lemma readContinuation_char {size code n size' : Nat} {bytes : Bytes} {c : Char}
    (h : readContinuation size code n bytes = .char c size') :
    ∃ bs rest, bytes = bs ++ rest ∧ bs.length = n ∧ (∀ b ∈ bs, IsContinuation b) ∧
      c = Char.ofNat (bs.foldl continued code) ∧ size' = size + n := by
  induction n generalizing size code bytes with
  | zero =>
    rw [readContinuation, Reading.char.injEq] at h
    exact ⟨[], bytes, rfl, rfl, by simp, h.1.symm, h.2.symm⟩
  | succ n ih =>
    cases bytes with
    | nil => cases h
    | cons b bytes =>
      by_cases hb : IsContinuation b
      · rw [readContinuation_cons hb] at h
        obtain ⟨bs, rest, rfl, hlen, hbs, hc, hs⟩ := ih h
        refine ⟨b :: bs, rest, rfl, ?_, List.forall_mem_cons.mpr ⟨hb, hbs⟩, ?_, ?_⟩
        · rw [List.length_cons, hlen]
        · rw [List.foldl_cons, hc]
        · omega
      · have hbad : readContinuation size code (n + 1) (b :: bytes) = .bad size .continuationByte :=
          if_neg hb
        rw [hbad] at h
        cases h

lemma readSecond_char {code low high n size : Nat} {bytes : Bytes} {c : Char}
    (h : readSecond code low high n bytes = .char c size) :
    ∃ b bs rest, bytes = b :: (bs ++ rest) ∧ (low ≤ b.toNat ∧ b.toNat ≤ high) ∧ bs.length = n ∧
      (∀ b ∈ bs, IsContinuation b) ∧
      c = Char.ofNat (bs.foldl continued (continued code b)) ∧ size = 2 + n := by
  cases bytes with
  | nil => cases h
  | cons b bytes =>
    rw [readSecond] at h
    split_ifs at h with hb
    change readContinuation 2 (continued code b) n bytes = _ at h
    obtain ⟨bs, rest, rfl, hlen, hbs, hc, hs⟩ := readContinuation_char h
    exact ⟨b, bs, rest, rfl, hb, hlen, hbs, hc, hs⟩

lemma readSecond_of_readBelowSurrogates {size : Nat} {bytes : Bytes} {c : Char}
    (h : readBelowSurrogates bytes = .char c size) :
    readSecond 0xD 0x80 0x9F 1 bytes = .char c size := by
  match bytes with
  | [] => exact h
  | [b] =>
    rw [readBelowSurrogates] at h
    split_ifs at h
    exact h
  | _ :: _ :: _ => exact h

/-- Some bytes start with those that a scheme writes for a character, which are so many. -/
structure StartsWith (s : Scheme) (bytes : Bytes) (c : Char) (size : Nat) : Prop where
  writable : s.canWrite c = true
  first : s.writeChar c <+: bytes
  length : (s.writeChar c).length = size

lemma ofNat_eq_of_toNat {b : UInt8} {n : Nat} (h : n = b.toNat) : UInt8.ofNat n = b := by
  rw [h, UInt8.ofNat_toNat]

lemma writeUtf8_of_one {a : UInt8} (ha : a.toNat < 0x80) :
    writeUtf8 (Char.ofNat a.toNat) = [a] := by
  have hn : (Char.ofNat a.toNat).toNat = a.toNat := toNat_ofNat_of_isValidChar (by left; omega)
  rw [writeUtf8, hn]
  rw [if_pos ha, UInt8.ofNat_toNat]

lemma writeUtf8_of_two {a b : UInt8} {code : Nat} (ha : a.toNat = 0xC0 + code)
    (hcode : 2 ≤ code ∧ code < 0x20) (hb : IsContinuation b) :
    writeUtf8 (Char.ofNat (continued code b)) = [a, b] := by
  unfold IsContinuation at hb
  have hn : (Char.ofNat (continued code b)).toNat = code * 0x40 + (b.toNat - 0x80) :=
    toNat_ofNat_of_isValidChar (by unfold continued Nat.isValidChar; omega)
  rw [writeUtf8, hn, if_neg (by omega), if_pos (by omega), ofNat_eq_of_toNat (b := a) (by omega),
    ofNat_eq_of_toNat (b := b) (by omega)]

lemma writeUtf8_of_three {a b d : UInt8} {code : Nat} (ha : a.toNat = 0xE0 + code)
    (hcode : code < 0x10) (hb : IsContinuation b) (hd : IsContinuation d)
    (hlow : code = 0 → 0xA0 ≤ b.toNat) (hhigh : code = 0xD → b.toNat ≤ 0x9F) :
    writeUtf8 (Char.ofNat (continued (continued code b) d)) = [a, b, d] := by
  unfold IsContinuation at hb hd
  have hn : (Char.ofNat (continued (continued code b) d)).toNat =
      (code * 0x40 + (b.toNat - 0x80)) * 0x40 + (d.toNat - 0x80) :=
    toNat_ofNat_of_isValidChar (by unfold continued Nat.isValidChar; omega)
  rw [writeUtf8, hn, if_neg (by omega), if_neg (by omega), if_pos (by omega),
    ofNat_eq_of_toNat (b := a) (by omega), ofNat_eq_of_toNat (b := b) (by omega),
    ofNat_eq_of_toNat (b := d) (by omega)]

lemma writeUtf8_of_four {a b d e : UInt8} {code : Nat} (ha : a.toNat = 0xF0 + code)
    (hcode : code < 5) (hb : IsContinuation b) (hd : IsContinuation d) (he : IsContinuation e)
    (hlow : code = 0 → 0x90 ≤ b.toNat) (hhigh : code = 4 → b.toNat ≤ 0x8F) :
    writeUtf8 (Char.ofNat (continued (continued (continued code b) d) e)) = [a, b, d, e] := by
  unfold IsContinuation at hb hd he
  have hn : (Char.ofNat (continued (continued (continued code b) d) e)).toNat =
      ((code * 0x40 + (b.toNat - 0x80)) * 0x40 + (d.toNat - 0x80)) * 0x40 + (e.toNat - 0x80) :=
    toNat_ofNat_of_isValidChar (by unfold continued Nat.isValidChar; omega)
  rw [writeUtf8, hn, if_neg (by omega), if_neg (by omega), if_neg (by omega),
    ofNat_eq_of_toNat (b := a) (by omega), ofNat_eq_of_toNat (b := b) (by omega),
    ofNat_eq_of_toNat (b := d) (by omega), ofNat_eq_of_toNat (b := e) (by omega)]

lemma startsWith_utf8 {bytes rest : Bytes} {c : Char} (h : writeUtf8 c = bytes) :
    StartsWith .utf8 (bytes ++ rest) c bytes.length :=
  ⟨rfl, ⟨rest, by rw [← h]; rfl⟩, congrArg List.length h⟩

lemma startsWith_of_two {a : UInt8} {rest : Bytes} {c : Char} {code size : Nat}
    (ha : a.toNat = 0xC0 + code) (hcode : 2 ≤ code ∧ code < 0x20)
    (h : readSecond code 0x80 0xBF 0 rest = .char c size) :
    StartsWith .utf8 (a :: rest) c size := by
  obtain ⟨b, bs, tail, rfl, hb, hlen, -, rfl, rfl⟩ := readSecond_char h
  obtain rfl := List.length_eq_zero_iff.mp hlen
  exact startsWith_utf8 (writeUtf8_of_two ha hcode hb)

lemma startsWith_of_three {a : UInt8} {rest : Bytes} {c : Char} {code low high size : Nat}
    (ha : a.toNat = 0xE0 + code) (hcode : code < 0x10) (hbounds : 0x80 ≤ low ∧ high ≤ 0xBF)
    (hlow : code = 0 → 0xA0 ≤ low) (hhigh : code = 0xD → high ≤ 0x9F)
    (h : readSecond code low high 1 rest = .char c size) : StartsWith .utf8 (a :: rest) c size := by
  obtain ⟨b, bs, tail, rfl, hb, hlen, hbs, rfl, rfl⟩ := readSecond_char h
  obtain ⟨d, rfl⟩ := List.length_eq_one_iff.mp hlen
  have hcont : IsContinuation b := ⟨by omega, by omega⟩
  have hleast : code = 0 → 0xA0 ≤ b.toNat := fun he => Nat.le_trans (hlow he) hb.1
  have hmost : code = 0xD → b.toNat ≤ 0x9F := fun he => Nat.le_trans hb.2 (hhigh he)
  exact startsWith_utf8 (writeUtf8_of_three ha hcode hcont (hbs d (by simp)) hleast hmost)

lemma startsWith_of_four {a : UInt8} {rest : Bytes} {c : Char} {code low high size : Nat}
    (ha : a.toNat = 0xF0 + code) (hcode : code < 5) (hbounds : 0x80 ≤ low ∧ high ≤ 0xBF)
    (hlow : code = 0 → 0x90 ≤ low) (hhigh : code = 4 → high ≤ 0x8F)
    (h : readSecond code low high 2 rest = .char c size) : StartsWith .utf8 (a :: rest) c size := by
  obtain ⟨b, bs, tail, rfl, hb, hlen, hbs, rfl, rfl⟩ := readSecond_char h
  obtain ⟨d, e, rfl⟩ := List.length_eq_two.mp hlen
  have hcont : IsContinuation b := ⟨by omega, by omega⟩
  have hleast : code = 0 → 0x90 ≤ b.toNat := fun he => Nat.le_trans (hlow he) hb.1
  have hmost : code = 4 → b.toNat ≤ 0x8F := fun he => Nat.le_trans hb.2 (hhigh he)
  exact startsWith_utf8
    (writeUtf8_of_four ha hcode hcont (hbs d (by simp)) (hbs e (by simp)) hleast hmost)

lemma startsWith_of_readUtf8 {bytes : Bytes} {c : Char} {size : Nat}
    (h : readUtf8 bytes = .char c size) : StartsWith .utf8 bytes c size := by
  cases bytes with
  | nil => cases h
  | cons a rest =>
    rw [readUtf8] at h
    split_ifs at h with h1 h2 h3 h4 h5 h6 h7 h8 h9
    · rw [Reading.char.injEq] at h
      obtain ⟨rfl, rfl⟩ := h
      exact startsWith_utf8 (writeUtf8_of_one h1)
    · exact startsWith_of_two (by omega) (by omega) h
    · exact startsWith_of_three (by omega) (by omega) (by omega) (by omega) (by omega) h
    · exact startsWith_of_three (by omega) (by omega) (by omega) (by omega) (by omega)
        (readSecond_of_readBelowSurrogates h)
    · exact startsWith_of_three (by omega) (by omega) (by omega) (by omega) (by omega) h
    · exact startsWith_of_four (by omega) (by omega) (by omega) (by omega) (by omega) h
    · exact startsWith_of_four (by omega) (by omega) (by omega) (by omega) (by omega) h
    · exact startsWith_of_four (by omega) (by omega) (by omega) (by omega) (by omega) h

lemma split_join (order : ByteOrder) (a b : UInt8) : order.split (order.join a b) = [a, b] := by
  have ha := a.toNat_lt
  have hb := b.toNat_lt
  cases order with
  | little =>
    rw [ByteOrder.join, ByteOrder.split, ofNat_eq_of_toNat (b := a) (by omega),
      ofNat_eq_of_toNat (b := b) (by omega)]
  | big =>
    rw [ByteOrder.join, ByteOrder.split, ofNat_eq_of_toNat (b := a) (by omega),
      ofNat_eq_of_toNat (b := b) (by omega)]

lemma join_lt (order : ByteOrder) (a b : UInt8) : order.join a b < 0x10000 := by
  have ha := a.toNat_lt
  have hb := b.toNat_lt
  cases order with
  | little =>
    rw [ByteOrder.join]
    omega
  | big =>
    rw [ByteOrder.join]
    omega

lemma startsWith_utf16 {order : ByteOrder} {bytes rest : Bytes} {c : Char}
    (h : writeUtf16 order c = bytes) : StartsWith (.utf16 order) (bytes ++ rest) c bytes.length :=
  ⟨rfl, ⟨rest, by rw [← h]; rfl⟩, congrArg List.length h⟩

lemma startsWith_of_unit {order : ByteOrder} {a b : UInt8} {rest : Bytes}
    (h : order.join a b < 0xD800 ∨ 0xE000 ≤ order.join a b) :
    StartsWith (.utf16 order) (a :: b :: rest) (Char.ofNat (order.join a b)) 2 := by
  have hlt := join_lt order a b
  have hn : (Char.ofNat (order.join a b)).toNat = order.join a b :=
    toNat_ofNat_of_isValidChar (by unfold Nat.isValidChar; omega)
  have hwrite : writeUtf16 order (Char.ofNat (order.join a b)) = [a, b] := by
    rw [writeUtf16, hn, if_pos hlt, split_join]
  exact startsWith_utf16 hwrite

lemma startsWith_of_pair {order : ByteOrder} {a b d e : UInt8} {rest : Bytes} {code : Nat}
    (hhigh : order.join a b = 0xD800 + (code - 0x10000) / 0x400)
    (hlow : order.join d e = 0xDC00 + (code - 0x10000) % 0x400)
    (hcode : 0x10000 ≤ code ∧ code < 0x110000) :
    StartsWith (.utf16 order) (a :: b :: d :: e :: rest) (Char.ofNat code) 4 := by
  have hn : (Char.ofNat code).toNat = code :=
    toNat_ofNat_of_isValidChar (by unfold Nat.isValidChar; omega)
  have hwrite : writeUtf16 order (Char.ofNat code) = [a, b, d, e] := by
    rw [writeUtf16, hn, if_neg (by omega), ← hhigh, ← hlow, split_join, split_join]
    rfl
  exact startsWith_utf16 hwrite

lemma startsWith_of_readUtf16 {order : ByteOrder} {bytes : Bytes} {c : Char} {size : Nat}
    (h : readUtf16 order bytes = .char c size) : StartsWith (.utf16 order) bytes c size := by
  match bytes with
  | [] => cases h
  | [_] => cases h
  | a :: b :: rest =>
    by_cases hunit : order.join a b < 0xD800 ∨ 0xE000 ≤ order.join a b
    · rw [readUtf16_of_unit hunit, Reading.char.injEq] at h
      obtain ⟨rfl, rfl⟩ := h
      exact startsWith_of_unit hunit
    · by_cases hpaired : 0xDC00 ≤ order.join a b
      · have hbad : readUtf16 order (a :: b :: rest) = .bad 2 .unpairedLow :=
          (if_neg hunit).trans (if_pos hpaired)
        rw [hbad] at h
        cases h
      · match rest with
        | [] =>
          rw [readUtf16_of_high (by omega) (by omega) (by decide)] at h
          cases h
        | [d] =>
          rw [readUtf16_of_high (by omega) (by omega) (by simp)] at h
          cases h
        | d :: e :: rest =>
          by_cases hsecond : 0xDC00 ≤ order.join d e ∧ order.join d e < 0xE000
          · rw [readUtf16_of_pair (by omega) (by omega) hsecond, Reading.char.injEq] at h
            obtain ⟨rfl, rfl⟩ := h
            exact startsWith_of_pair (by omega) (by omega) (by omega)
          · have hbad : readUtf16 order (a :: b :: d :: e :: rest) = .bad 2 .unpairedHigh :=
              (if_neg hunit).trans ((if_neg hpaired).trans (if_neg hsecond))
            rw [hbad] at h
            cases h

lemma startsWith_of_byte {s : Scheme} {b : UInt8} {rest : Bytes}
    (hwritable : s.canWrite (Char.ofNat b.toNat) = true)
    (hwrite : s.writeChar (Char.ofNat b.toNat) = [UInt8.ofNat (Char.ofNat b.toNat).toNat]) :
    StartsWith s (b :: rest) (Char.ofNat b.toNat) 1 := by
  have hn : (Char.ofNat b.toNat).toNat = b.toNat :=
    toNat_ofNat_of_isValidChar (by have := b.toNat_lt; left; omega)
  rw [hn, UInt8.ofNat_toNat] at hwrite
  refine ⟨hwritable, ?_, ?_⟩
  · rw [hwrite]
    exact ⟨rest, rfl⟩
  · rw [hwrite]
    rfl

lemma startsWith_of_readLatin1 {bytes : Bytes} {c : Char} {size : Nat}
    (h : Scheme.latin1.read bytes = .char c size) : StartsWith .latin1 bytes c size := by
  cases bytes with
  | nil => cases h
  | cons b rest =>
    rw [Scheme.read, Reading.char.injEq] at h
    obtain ⟨rfl, rfl⟩ := h
    have hlt := b.toNat_lt
    have hn : (Char.ofNat b.toNat).toNat = b.toNat := toNat_ofNat_of_isValidChar (by left; omega)
    exact startsWith_of_byte (decide_eq_true (by omega)) rfl

lemma startsWith_of_readAscii {bytes : Bytes} {c : Char} {size : Nat}
    (h : Scheme.ascii.read bytes = .char c size) : StartsWith .ascii bytes c size := by
  cases bytes with
  | nil => cases h
  | cons b rest =>
    rw [Scheme.read] at h
    split_ifs at h with hb
    rw [Reading.char.injEq] at h
    obtain ⟨rfl, rfl⟩ := h
    have hn : (Char.ofNat b.toNat).toNat = b.toNat := toNat_ofNat_of_isValidChar (by left; omega)
    exact startsWith_of_byte (decide_eq_true (by omega)) rfl

theorem startsWith_of_read {s : Scheme} {bytes : Bytes} {c : Char} {size : Nat}
    (h : s.read bytes = .char c size) : StartsWith s bytes c size := by
  cases s with
  | utf8 => exact startsWith_of_readUtf8 h
  | utf16 order => exact startsWith_of_readUtf16 h
  | latin1 => exact startsWith_of_readLatin1 h
  | ascii => exact startsWith_of_readAscii h

end OnePass.Proofs
