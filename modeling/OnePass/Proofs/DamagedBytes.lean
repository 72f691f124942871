import OnePass.Proofs.BlockDecoding
import OnePass.Proofs.CharacterReading

/-!
# Damaged files

A file that is not text starts with the bytes of some text, and behind the longest such text come
bytes that no character begins with. However the file falls into blocks, it delivers only lines of
that text, all of them with their endings, and never one that the damage may have cut short.
-/

namespace OnePass.Proofs

section Damage

variable {s : Scheme} {bytes front bad more : Bytes} {before text : Text}

/-- No character that a scheme can write stands at the start of some bytes. -/
def NoneStarts (s : Scheme) (bytes : Bytes) : Prop :=
  ∀ c, s.canWrite c = true → ¬s.writeChar c <+: bytes

/-- Some bytes start with those of a text, and damage follows: bytes at the start of which no
character stands. -/
def DamagedAfter (s : Scheme) (text : Text) (bytes : Bytes) : Prop :=
  ∃ front bad, s.encode text = .ok front ∧ bytes = front ++ bad ∧ bad ≠ [] ∧ NoneStarts s bad

lemma exists_longest (s : Scheme) (bytes : Bytes) :
    ∃ text front bad, s.encode text = .ok front ∧ bytes = front ++ bad ∧ NoneStarts s bad := by
  induction hn : bytes.length using Nat.strongRecOn generalizing bytes with
  | ind n ih =>
    by_cases h : NoneStarts s bytes
    · exact ⟨[], [], bytes, rfl, rfl, h⟩
    · unfold NoneStarts at h
      push Not at h
      obtain ⟨c, hc, rest, rfl⟩ := h
      have hpos := List.length_pos_iff.mpr (standsFor_writeChar hc).ne_nil
      rw [List.length_append] at hn
      obtain ⟨text, front, bad, htext, rfl, hbad⟩ := ih rest.length (by omega) rest rfl
      refine ⟨c :: text, s.writeChar c ++ front, bad, ?_, by simp, hbad⟩
      exact encode_cons_iff.mpr ⟨hc, front, htext, rfl⟩

lemma exists_append_of_noneStarts {first : Bytes} (hbefore : s.encode before = .ok first)
    (htext : s.encode text = .ok front) (hbytes : first ++ more = front ++ bad)
    (hbad : NoneStarts s bad) :
    ∃ after later, text = before ++ after ∧ s.encode after = .ok later ∧ more = later ++ bad := by
  induction before generalizing first text front with
  | nil =>
    rw [encode_nil_iff.mp hbefore, List.nil_append] at hbytes
    exact ⟨text, front, rfl, htext, hbytes⟩
  | cons c before ih =>
    obtain ⟨hc, rest, hrest, rfl⟩ := encode_cons_iff.mp hbefore
    have hread := (standsFor_writeChar hc).whole (rest ++ more)
    rw [← List.append_assoc, hbytes] at hread
    cases text with
    | nil =>
      rw [encode_nil_iff.mp htext, List.nil_append] at hread
      exact absurd (startsWith_of_read hread).first (hbad c hc)
    | cons d text =>
      obtain ⟨hd, rest', hrest', rfl⟩ := encode_cons_iff.mp htext
      rw [List.append_assoc, (standsFor_writeChar hd).whole, Reading.char.injEq] at hread
      obtain ⟨rfl, -⟩ := hread
      rw [List.append_assoc, List.append_assoc, List.append_cancel_left_eq] at hbytes
      obtain ⟨after, later, rfl, hafter, hmore⟩ := ih hrest hrest' hbytes
      exact ⟨after, later, rfl, hafter, hmore⟩

lemma damagedAfter_append {first : Bytes} (hbefore : s.encode before = .ok first)
    (h : DamagedAfter s text (first ++ more)) :
    ∃ after, text = before ++ after ∧ DamagedAfter s after more := by
  obtain ⟨front, bad, htext, hbytes, hne, hbad⟩ := h
  obtain ⟨after, later, rfl, hafter, hmore⟩ :=
    exists_append_of_noneStarts hbefore htext hbytes hbad
  exact ⟨after, rfl, later, bad, hafter, hmore, hne, hbad⟩

lemma damagedAfter_unique {other : Text} (h : DamagedAfter s text bytes)
    (ho : DamagedAfter s other bytes) : other = text := by
  obtain ⟨front, bad, htext, rfl, -, hbad⟩ := h
  obtain ⟨after, rfl, front', bad', hafter, hbytes, -, -⟩ := damagedAfter_append htext ho
  cases after with
  | nil => exact List.append_nil text
  | cons c after =>
    obtain ⟨hc, rest, -, rfl⟩ := encode_cons_iff.mp hafter
    rw [List.append_assoc] at hbytes
    exact absurd ⟨rest ++ bad', hbytes.symm⟩ (hbad c hc)

lemma not_encode_of_damagedAfter {other : Text} (h : DamagedAfter s text bytes) :
    s.encode other ≠ .ok bytes := by
  intro hencode
  rw [← List.append_nil bytes] at h
  obtain ⟨after, -, front, bad, -, hbytes, hne, -⟩ := damagedAfter_append hencode h
  exact hne (List.append_eq_nil_iff.mp hbytes.symm).2

/-- Bytes are damaged just when they are not those of a text. -/
theorem exists_damagedAfter_iff (s : Scheme) (bytes : Bytes) :
    (∃ text, DamagedAfter s text bytes) ↔ ∀ text, s.encode text ≠ .ok bytes := by
  constructor
  · rintro ⟨text, h⟩ other
    exact not_encode_of_damagedAfter h
  · intro h
    obtain ⟨text, front, bad, htext, rfl, hbad⟩ := exists_longest s bytes
    refine ⟨text, front, bad, htext, rfl, ?_, hbad⟩
    rintro rfl
    rw [List.append_nil] at h
    exact h text htext

end Damage

section Delivery

variable {s : Scheme} {final : Bool}

/-- Decoded bytes are those of the text that they are decoded to, but for the bytes left over. -/
theorem encode_of_decodeFrom {position : Nat} {bytes left : Bytes} {text : Text}
    (h : s.decodeFrom final position bytes = .ok (text, left)) :
    ∃ front, s.encode text = .ok front ∧ bytes = front ++ left ∧ (final = true → left = []) := by
  -- A character takes more than one byte, so the induction is on how many there are.
  induction hn : bytes.length using Nat.strongRecOn generalizing position bytes text with
  | ind n ih =>
    cases bytes with
    | nil =>
      rw [decodeFrom_nil, Except.ok.injEq, Prod.mk.injEq] at h
      obtain ⟨rfl, rfl⟩ := h
      exact ⟨[], rfl, rfl, fun _ => rfl⟩
    | cons b rest =>
      rw [Scheme.decodeFrom] at h
      cases hread : s.read (b :: rest) with
      | bad size damage => simp [hread] at h
      | incomplete size damage =>
        simp only [hread] at h
        split_ifs at h with hf
        rw [Except.ok.injEq, Prod.mk.injEq] at h
        obtain ⟨rfl, rfl⟩ := h
        exact ⟨[], rfl, rfl, fun ht => absurd ht hf⟩
      | char c size =>
        obtain ⟨writable, ⟨tail, htail⟩, hsize⟩ := startsWith_of_read hread
        have hpos := List.length_pos_iff.mpr (standsFor_writeChar writable).ne_nil
        have hdrop : rest.drop (size - 1) = tail := by
          have hcons : (b :: rest).drop size = tail := by rw [← htail, ← hsize, List.drop_left]
          rw [← hcons, ← List.drop_succ_cons (a := b)]
          congr 1
          omega
        simp only [hread, hdrop] at h
        have hlen : tail.length < n := by
          rw [← hn, ← htail, List.length_append]
          omega
        cases hd : s.decodeFrom final (position + size) tail with
        | error fault => simp [hd] at h
        | ok decoded =>
          obtain ⟨later, left'⟩ := decoded
          simp only [hd, Except.ok.injEq, Prod.mk.injEq] at h
          obtain ⟨rfl, rfl⟩ := h
          obtain ⟨front, hfront, hsplit, hfinal⟩ := ih tail.length hlen hd rfl
          refine ⟨s.writeChar c ++ front, ?_, ?_, hfinal⟩
          · exact encode_cons_iff.mpr ⟨writable, front, hfront, rfl⟩
          · rw [← htail, hsplit, List.append_assoc]

/-- What the blocks of damaged bytes deliver: a fault, and before it whole lines of the text before
the damage that are lines of it whatever comes next. -/
structure BreaksOff (text : Text) (source : Source) : Prop where
  fault : ∃ fault, source.fault = some (.undecodable fault)
  terminated : ∀ line ∈ source.lines, IsTerminated line
  uncut : ∀ more, source.lines <+: Text.sourceLines (text ++ more)

lemma breaksOff_of_fault (text : Text) (fault : DecodeFault) :
    BreaksOff text ⟨[], some (.undecodable fault)⟩ :=
  ⟨⟨fault, rfl⟩, by simp, fun _ => List.nil_prefix⟩

/-- Damaged bytes break off, whatever text and bytes are held back and wherever the blocks end. -/
theorem breaksOff_ofBlocks {text held : Text} {left : Bytes} {blocks : List Bytes}
    (h : DamagedAfter s text (left ++ blocks.flatten)) :
    BreaksOff (held ++ text) (Source.ofBlocks ⟨.decided s, left⟩ held blocks) := by
  induction blocks generalizing text held left with
  | nil =>
    rw [List.flatten_nil] at h
    cases hd : s.decodeFrom true 0 (left ++ []) with
    | error fault =>
      have hsource : Source.ofBlocks ⟨.decided s, left⟩ held [] =
          ⟨[], some (.undecodable fault)⟩ := by
        simp only [Source.ofBlocks, Decoder.feed, Decoder.decodeBy, hd]
      rw [hsource]
      exact breaksOff_of_fault _ fault
    | ok decoded =>
      obtain ⟨front, hfront, hsplit, hfinal⟩ := encode_of_decodeFrom hd
      rw [hfinal rfl, List.append_nil front] at hsplit
      rw [hsplit] at h
      exact absurd hfront (not_encode_of_damagedAfter h)
  | cons block rest ih =>
    rw [List.flatten_cons, ← List.append_assoc] at h
    cases hd : s.decodeFrom false 0 (left ++ block) with
    | error fault =>
      have hsource : Source.ofBlocks ⟨.decided s, left⟩ held (block :: rest) =
          ⟨[], some (.undecodable fault)⟩ := by
        simp only [Source.ofBlocks, Decoder.feed, Decoder.decodeBy, hd]
      rw [hsource]
      exact breaksOff_of_fault _ fault
    | ok decoded =>
      obtain ⟨before, left'⟩ := decoded
      obtain ⟨front, hfront, hsplit, -⟩ := encode_of_decodeFrom hd
      rw [hsplit, List.append_assoc] at h
      obtain ⟨after, rfl, hafter⟩ := damagedAfter_append hfront h
      have hlater : BreaksOff ((Text.completeLines (held ++ before)).2 ++ after)
          (Source.ofBlocks ⟨.decided s, left'⟩ (Text.completeLines (held ++ before)).2 rest) :=
        ih hafter
      obtain ⟨hfault, hterminated, huncut⟩ := hlater
      simp only [Source.ofBlocks, Decoder.feed, Decoder.decodeBy, hd]
      refine ⟨hfault, ?_, ?_⟩
      · exact List.forall_mem_append.mpr ⟨isTerminated_completeLines _, hterminated⟩
      · intro more
        have hcut := sourceLines_append_completeLines (held ++ before) (after ++ more)
        simp only [List.append_assoc] at hcut huncut ⊢
        rw [hcut]
        exact (List.prefix_append_right_inj _).mpr (huncut more)

theorem breaksOff_ofBytes {text : Text} {bytes : Bytes} (h : DamagedAfter s text bytes) :
    BreaksOff text (Source.ofBytes (.plain s) bytes) := by
  have hblocks : DamagedAfter s text ([] ++ (Source.blocks Source.blockSize bytes).flatten) := by
    rw [flatten_blocks (by decide)]
    exact h
  have hbreaks : BreaksOff ([] ++ text) (Source.ofBlocks ⟨.decided s, []⟩ []
      (Source.blocks Source.blockSize bytes)) := breaksOff_ofBlocks hblocks
  exact hbreaks

lemma ofBytes_of_encode {text : Text} {bytes : Bytes} (h : s.encode text = .ok bytes) :
    Source.ofBytes (.plain s) bytes = Source.ofText text := by
  apply ofBytes_encode
  rw [Encoding.encode, Encoding.writer, h]
  rfl

/-- A file is read to its end just when its bytes are those of a text. -/
theorem ofBytes_fault_eq_none_iff (s : Scheme) (bytes : Bytes) :
    (Source.ofBytes (.plain s) bytes).fault = none ↔ ∃ text, s.encode text = .ok bytes := by
  constructor
  · intro h
    by_contra hnone
    push Not at hnone
    obtain ⟨text, hdamage⟩ := (exists_damagedAfter_iff s bytes).mpr hnone
    obtain ⟨fault, hfault⟩ := (breaksOff_ofBytes hdamage).fault
    rw [h] at hfault
    cases hfault
  · rintro ⟨text, htext⟩
    rw [ofBytes_of_encode htext]
    rfl

end Delivery

end OnePass.Proofs
