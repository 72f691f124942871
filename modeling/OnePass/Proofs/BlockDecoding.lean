import OnePass.Proofs.ByteOrderMark
import OnePass.Proofs.CharacterBytes
import OnePass.Proofs.LineCutting

/-!
# Decoding what was encoded

The bytes of a text are decoded to this text, in one piece or block by block: the characters whose
bytes are there come first, and the bytes that are left over go on with the rest of the text. So
the blocks of a file deliver the lines of the text that was encoded, wherever the blocks end.
-/

namespace OnePass.Proofs

section Encoded

variable {s : Scheme} {c : Char} {text : Text} {bytes : Bytes}

lemma encode_eq_ok_iff : s.encode text = .ok bytes ↔
    (∀ c ∈ text, s.canWrite c = true) ∧ text.flatMap s.writeChar = bytes := by
  rw [← List.all_eq_true, Scheme.encode]
  split_ifs with h
  · simp [h]
  · simp [h]

lemma encode_nil_iff : s.encode [] = .ok bytes ↔ bytes = [] := by
  have h : s.encode [] = .ok [] := rfl
  rw [h, Except.ok.injEq, eq_comm]

lemma encode_cons_iff : s.encode (c :: text) = .ok bytes ↔
    s.canWrite c = true ∧ ∃ rest, s.encode text = .ok rest ∧ bytes = s.writeChar c ++ rest := by
  simp only [encode_eq_ok_iff, List.forall_mem_cons, List.flatMap_cons]
  constructor
  · rintro ⟨⟨hc, ht⟩, rfl⟩
    exact ⟨hc, _, ⟨ht, rfl⟩, rfl⟩
  · rintro ⟨hc, rest, ⟨ht, rfl⟩, rfl⟩
    exact ⟨⟨hc, ht⟩, rfl⟩

end Encoded

section Decoding

variable {s : Scheme} {c : Char} {bytes rest more left : Bytes} {text : Text} {final : Bool}
  {position : Nat}

lemma decodeFrom_nil : s.decodeFrom final position [] = .ok ([], []) := by
  rw [Scheme.decodeFrom]

lemma decodeFrom_of_standsFor (h : StandsFor s bytes c)
    (hrest : s.decodeFrom final (position + bytes.length) rest = .ok (text, left)) :
    s.decodeFrom final position (bytes ++ rest) = .ok (c :: text, left) := by
  have hread := h.whole rest
  cases bytes with
  | nil => exact absurd rfl h.ne_nil
  | cons b bytes =>
    rw [List.cons_append] at hread ⊢
    rw [Scheme.decodeFrom, hread]
    have hdrop : (bytes ++ rest).drop ((b :: bytes).length - 1) = rest := by simp
    simp only [hdrop, hrest]

lemma decodeFrom_of_part (h : StandsFor s (bytes ++ more) c) (hmore : more ≠ []) :
    s.decodeFrom false position bytes = .ok ([], bytes) := by
  cases bytes with
  | nil => exact decodeFrom_nil
  | cons b bytes =>
    obtain ⟨size, damage, hread⟩ := h.part (b :: bytes) more (by simp) hmore rfl
    rw [Scheme.decodeFrom, hread]
    rfl

theorem decodeFrom_encode (h : s.encode text = .ok bytes) :
    s.decodeFrom final position bytes = .ok (text, []) := by
  induction text generalizing bytes position with
  | nil =>
    rw [encode_nil_iff.mp h]
    exact decodeFrom_nil
  | cons c text ih =>
    obtain ⟨hc, rest, hrest, rfl⟩ := encode_cons_iff.mp h
    exact decodeFrom_of_standsFor (standsFor_writeChar hc) (ih hrest)

/-- The first bytes of an encoded text are decoded to the start of the text, and the bytes left over
together with those still to come are the rest of it. -/
theorem decodeFrom_encode_part (position : Nat) (h : s.encode text = .ok (bytes ++ more)) :
    ∃ before after left, text = before ++ after ∧
      s.decodeFrom false position bytes = .ok (before, left) ∧
      s.encode after = .ok (left ++ more) := by
  induction text generalizing bytes position with
  | nil =>
    have hempty := List.append_eq_nil_iff.mp (encode_nil_iff.mp h)
    refine ⟨[], [], [], rfl, ?_, ?_⟩
    · rw [hempty.1]
      exact decodeFrom_nil
    · rw [hempty.2]
      rfl
  | cons c text ih =>
    obtain ⟨hc, rest, hrest, he⟩ := encode_cons_iff.mp h
    have hstands := standsFor_writeChar hc
    obtain ⟨missing, hbytes, hmore⟩ | ⟨rest', rfl, rfl⟩ := List.append_eq_append_iff.mp he
    · by_cases hmissing : missing = []
      · subst hmissing
        rw [List.append_nil] at hbytes
        rw [List.nil_append] at hmore
        subst hmore
        refine ⟨[c], text, [], rfl, ?_, hrest⟩
        rw [← hbytes, ← List.append_nil (s.writeChar c)]
        exact decodeFrom_of_standsFor hstands decodeFrom_nil
      · rw [hbytes] at hstands
        exact ⟨[], c :: text, bytes, rfl, decodeFrom_of_part hstands hmissing, h⟩
    · obtain ⟨before, after, left, rfl, hdecode, hafter⟩ := ih _ hrest
      exact ⟨c :: before, after, left, rfl, decodeFrom_of_standsFor hstands hdecode, hafter⟩

end Decoding

section Blocks

lemma flatten_blocks {size : Nat} (hsize : size ≠ 0) (bytes : Bytes) :
    (Source.blocks size bytes).flatten = bytes := by
  induction bytes using Source.blocks.induct size with
  | case1 bytes h =>
    obtain h | rfl := h
    · exact absurd h hsize
    · rw [blocks_nil]
      rfl
  | case2 bytes h ih =>
    rw [blocks_of_ne_nil hsize (not_or.mp h).2, List.flatten_cons, ih, List.take_append_drop]

variable {s : Scheme} {held text : Text} {rest : List Bytes}

/-- The blocks deliver the lines of the text that they are the rest of, whatever is held back. -/
def Delivers (s : Scheme) (blocks : List Bytes) : Prop :=
  ∀ (text held : Text) (left : Bytes), s.encode text = .ok (left ++ blocks.flatten) →
    Source.ofBlocks ⟨.decided s, left⟩ held blocks = Source.ofText (held ++ text)

lemma delivers_nil (s : Scheme) : Delivers s [] := by
  intro text held left h
  have hdecode : s.decodeFrom true 0 (left ++ []) = .ok (text, []) := decodeFrom_encode h
  rw [Source.ofBlocks, Decoder.feed]
  simp only [Decoder.decodeBy, hdecode]
  rfl

lemma ofBlocks_of_feed {d : Decoder} {block bytes : Bytes} {position : Nat} (hrest : Delivers s rest)
    (hfeed : d.feed block false = Decoder.decodeBy s false position bytes)
    (h : s.encode text = .ok (bytes ++ rest.flatten)) :
    Source.ofBlocks d held (block :: rest) = Source.ofText (held ++ text) := by
  obtain ⟨before, after, left, rfl, hdecode, hafter⟩ := decodeFrom_encode_part position h
  rw [Source.ofBlocks, hfeed]
  simp only [Decoder.decodeBy, hdecode]
  rw [hrest after _ left hafter]
  simp only [Source.ofText, ← List.append_assoc]
  rw [sourceLines_append_completeLines (held ++ before)]

theorem delivers (s : Scheme) (blocks : List Bytes) : Delivers s blocks := by
  induction blocks with
  | nil => exact delivers_nil s
  | cons block rest ih =>
    intro text held left h
    rw [List.flatten_cons, ← List.append_assoc] at h
    exact ofBlocks_of_feed ih rfl h

lemma blocks_append {size : Nat} {mark : Bytes} (hmark : mark ≠ []) (hsize : mark.length ≤ size)
    (bytes : Bytes) : Source.blocks size (mark ++ bytes) =
      (mark ++ bytes.take (size - mark.length)) ::
        Source.blocks size (bytes.drop (size - mark.length)) := by
  have hpos := List.length_pos_iff.mpr hmark
  rw [blocks_of_ne_nil (by omega) (by simp [hmark]), List.take_append, List.drop_append,
    List.take_of_length_le hsize, List.drop_of_length_le hsize, List.nil_append]

lemma ofBlocks_of_mark {d : Decoder} {bytes : Bytes} {position : Nat} (mark : Bytes)
    (hmark : mark ≠ []) (hsize : mark.length ≤ Source.blockSize)
    (hfeed : ∀ block, d.feed (mark ++ block) false = Decoder.decodeBy s false position block)
    (h : s.encode text = .ok bytes) :
    Source.ofBlocks d held (Source.blocks Source.blockSize (mark ++ bytes)) =
      Source.ofText (held ++ text) := by
  rw [blocks_append hmark hsize]
  refine ofBlocks_of_feed (delivers s _) (hfeed _) ?_
  rw [flatten_blocks (by decide), List.take_append_drop]
  exact h

end Blocks

lemma feed_signature (block : Bytes) :
    Decoder.feed ⟨.beforeSignature, []⟩ (signature ++ block) false =
      Decoder.decodeBy .utf8 false 0 block := by
  have hprefix : signature <+: signature ++ block := List.prefix_append signature block
  have hlong : ¬((signature ++ block).length < 3 ∧ signature ++ block <+: signature) := by
    rintro ⟨hlength, -⟩
    have hthree : signature.length = 3 := rfl
    rw [List.length_append] at hlength
    omega
  rw [Decoder.feed]
  dsimp only
  rw [List.nil_append, if_neg hlong, if_pos hprefix]
  rfl

/-- A file delivers the lines of the text that it was written from. -/
theorem ofBytes_encode {e : Encoding} {text : Text} {bytes : Bytes}
    (h : e.encode text = .ok bytes) : Source.ofBytes e bytes = Source.ofText text := by
  obtain ⟨written, hwritten, rfl⟩ : ∃ written, e.writer.encode text = .ok written ∧
      e.mark ++ written = bytes := by
    unfold Encoding.encode at h
    cases hw : e.writer.encode text with
    | error fault =>
      rw [hw] at h
      cases h
    | ok written =>
      rw [hw] at h
      exact ⟨written, rfl, Except.ok.inj h⟩
  unfold Source.ofBytes
  cases e with
  | plain s =>
    refine delivers s _ text [] [] ?_
    rw [flatten_blocks (by decide)]
    exact hwritten
  | signedUtf8 =>
    exact ofBlocks_of_mark signature (by decide) (by decide) feed_signature hwritten
  | markedUtf16 =>
    exact ofBlocks_of_mark [0xFF, 0xFE] (by decide) (by decide) (fun _ => rfl) hwritten

end OnePass.Proofs
