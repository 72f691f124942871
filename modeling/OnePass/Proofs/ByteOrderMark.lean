import Mathlib.Data.List.Basic
import OnePass.Source

/-!
# Files without a byte-order mark

Reading a file ends for lack of a byte-order mark just when its encoding asks for one and the first
block starts with none but with text in the order of the machine. Nothing is delivered then. All
other faults are bytes that are not text.
-/

namespace OnePass.Proofs

/-- The bytes start with a byte-order mark. -/
def Marked (bytes : Bytes) : Prop := [0xFF, 0xFE] <+: bytes ∨ [0xFE, 0xFF] <+: bytes

/-- The file starts without a byte-order mark, and its first block can be read with the low byte of
each pair first and yields some text. -/
structure LacksMark (bytes : Bytes) : Prop where
  unmarked : ¬Marked bytes
  readable : ∃ text left, text ≠ [] ∧ (Scheme.utf16 .little).decodeFrom false 0
    (bytes.take Source.blockSize) = .ok (text, left)

lemma marked_take_iff (bytes : Bytes) : Marked (bytes.take Source.blockSize) ↔ Marked bytes := by
  unfold Marked
  rw [List.prefix_take_iff, List.prefix_take_iff]
  simp [Source.blockSize]

lemma blocks_nil (size : Nat) : Source.blocks size [] = [] := by
  rw [Source.blocks]
  simp

lemma blocks_of_ne_nil {size : Nat} (hs : size ≠ 0) {bytes : Bytes} (hb : bytes ≠ []) :
    Source.blocks size bytes = bytes.take size :: Source.blocks size (bytes.drop size) := by
  rw [Source.blocks]
  simp [hs, hb]

lemma length_of_readUtf16_incomplete {order : ByteOrder} {bytes : Bytes} {size : Nat}
    {damage : Damage} (h : readUtf16 order bytes = .incomplete size damage) : bytes.length < 4 := by
  match bytes with
  | [] => decide
  | [_] => simp
  | [_, _] => simp
  | [_, _, _] => simp
  | a :: b :: c :: d :: rest =>
    simp only [readUtf16] at h
    split_ifs at h

lemma incomplete_of_decodeFrom_nil {s : Scheme} {position : Nat} {b : UInt8} {rest left : Bytes}
    (h : s.decodeFrom false position (b :: rest) = .ok ([], left)) :
    ∃ size damage, s.read (b :: rest) = .incomplete size damage := by
  rw [Scheme.decodeFrom] at h
  cases hr : s.read (b :: rest) with
  | incomplete size damage => exact ⟨size, damage, rfl⟩
  | bad size damage => simp [hr] at h
  | char c size =>
    simp only [hr] at h
    split at h <;> simp at h

lemma decodeFrom_final_of_nil {s : Scheme} {position : Nat} {bytes left : Bytes}
    (h : s.decodeFrom false position bytes = .ok ([], left)) (hb : bytes ≠ []) :
    ∃ fault, s.decodeFrom true position bytes = .error fault := by
  cases bytes with
  | nil => exact absurd rfl hb
  | cons b rest =>
    obtain ⟨size, damage, hr⟩ := incomplete_of_decodeFrom_nil h
    refine ⟨⟨s, position, (b :: rest).take size, damage⟩, ?_⟩
    rw [Scheme.decodeFrom]
    simp [hr]

section Decided

lemma decodeBy_cases (scheme : Scheme) (final : Bool) (position : Nat) (bytes : Bytes) :
    (∃ text held, Decoder.decodeBy scheme final position bytes =
        .ok (text, ⟨.decided scheme, held⟩)) ∨
      ∃ fault, Decoder.decodeBy scheme final position bytes = .error (.undecodable fault) := by
  unfold Decoder.decodeBy
  cases scheme.decodeFrom final position bytes with
  | ok decoded => exact Or.inl ⟨decoded.1, decoded.2, rfl⟩
  | error fault => exact Or.inr ⟨fault, rfl⟩

/-- A decoder that does not wait for a byte-order mark never will. -/
lemma feed_cases {d : Decoder} (hd : d.phase ≠ .beforeMark) (block : Bytes) (final : Bool) :
    (∃ text d', d.feed block final = .ok (text, d') ∧ d'.phase ≠ .beforeMark) ∨
      ∃ fault, d.feed block final = .error (.undecodable fault) := by
  have hby : ∀ scheme position bytes,
      (∃ text d', Decoder.decodeBy scheme final position bytes = .ok (text, d') ∧
          d'.phase ≠ .beforeMark) ∨
        ∃ fault, Decoder.decodeBy scheme final position bytes = .error (.undecodable fault) := by
    intro scheme position bytes
    obtain ⟨text, held, h⟩ | h := decodeBy_cases scheme final position bytes
    · exact Or.inl ⟨text, ⟨.decided scheme, held⟩, h, by simp⟩
    · exact Or.inr h
  unfold Decoder.feed
  cases hp : d.phase with
  | beforeMark => exact absurd hp hd
  | decided scheme => exact hby scheme 0 _
  | beforeSignature =>
    dsimp only
    split_ifs with hshort hsigned
    · exact Or.inl ⟨[], ⟨.beforeSignature, d.held ++ block⟩, rfl, by simp⟩
    · exact hby .utf8 0 _
    · exact hby .utf8 0 _

lemma ofBlocks_fault_of_decided {d : Decoder} (hd : d.phase ≠ .beforeMark) (held : Text)
    (blocks : List Bytes) : (Source.ofBlocks d held blocks).fault ≠ some .noByteOrderMark := by
  induction blocks generalizing d held with
  | nil =>
    rw [Source.ofBlocks]
    obtain ⟨text, d', h, -⟩ | ⟨fault, h⟩ := feed_cases hd [] true
    · simp [h]
    · simp [h]
  | cons block rest ih =>
    rw [Source.ofBlocks]
    obtain ⟨text, d', h, hd'⟩ | ⟨fault, h⟩ := feed_cases hd block false
    · simp only [h]
      exact ih hd' _
    · simp [h]

end Decided

section Marked

/-- What becomes of a block when a byte-order mark must come first. -/
inductive MarkOutcome (final : Bool) (bytes : Bytes) : Except ReadFault (Text × Decoder) → Prop where
  | undecodable {fault : DecodeFault}
      (cause : Marked bytes ∨ (Scheme.utf16 .little).decodeFrom final 0 bytes = .error fault) :
      MarkOutcome final bytes (.error (.undecodable fault))
  | decided (text : Text) {d : Decoder} (hd : d.phase ≠ .beforeMark) (marked : Marked bytes) :
      MarkOutcome final bytes (.ok (text, d))
  | waiting {left : Bytes}
      (short : (Scheme.utf16 .little).decodeFrom final 0 bytes = .ok ([], left)) :
      MarkOutcome final bytes (.ok ([], ⟨.beforeMark, bytes⟩))
  | lacking {text : Text} {left : Bytes} (unmarked : ¬Marked bytes) (some_text : text ≠ [])
      (read : (Scheme.utf16 .little).decodeFrom final 0 bytes = .ok (text, left)) :
      MarkOutcome final bytes (.error .noByteOrderMark)

lemma markOutcome_of_marked {scheme : Scheme} {final : Bool} {rest bytes : Bytes}
    (marked : Marked bytes) :
    MarkOutcome final bytes (Decoder.decodeBy scheme final 2 rest) := by
  obtain ⟨text, held, h⟩ | ⟨fault, h⟩ := decodeBy_cases scheme final 2 rest
  · rw [h]
    exact .decided text (by simp) marked
  · rw [h]
    exact .undecodable (Or.inl marked)

lemma feed_beforeMark (held block : Bytes) (final : Bool) :
    MarkOutcome final (held ++ block) (Decoder.feed ⟨.beforeMark, held⟩ block final) := by
  unfold Decoder.feed
  dsimp only
  generalize held ++ block = bytes
  split
  · next rest => exact markOutcome_of_marked (Or.inl ⟨rest, rfl⟩)
  · next rest => exact markOutcome_of_marked (Or.inr ⟨rest, rfl⟩)
  · next hlittle hbig =>
    have unmarked : ¬Marked bytes := by
      rintro (⟨rest, h⟩ | ⟨rest, h⟩)
      · exact hlittle rest h.symm
      · exact hbig rest h.symm
    split
    · next fault h => exact .undecodable (Or.inr h)
    · next left h => exact .waiting h
    · next c text left h => exact .lacking unmarked (by simp) h

lemma ofBlocks_fault_of_waiting {bytes left : Bytes} {held : Text}
    (short : (Scheme.utf16 .little).decodeFrom false 0 bytes = .ok ([], left)) :
    (Source.ofBlocks ⟨.beforeMark, bytes⟩ held []).fault ≠ some .noByteOrderMark := by
  rw [Source.ofBlocks]
  have hfeed := feed_beforeMark bytes [] true
  rw [List.append_nil] at hfeed
  generalize Decoder.feed ⟨.beforeMark, bytes⟩ [] true = outcome at hfeed
  cases hfeed with
  | undecodable cause => simp
  | decided text hd marked => simp
  | waiting short => simp
  | lacking unmarked some_text read =>
    exfalso
    by_cases hb : bytes = []
    · subst hb
      rw [Scheme.decodeFrom] at read
      simp only [Except.ok.injEq, Prod.mk.injEq] at read
      exact some_text read.1.symm
    · obtain ⟨fault, h⟩ := decodeFrom_final_of_nil short hb
      rw [h] at read
      exact absurd read (by simp)

lemma blocks_eq_nil_of_waiting {bytes left : Bytes}
    (short : (Scheme.utf16 .little).decodeFrom false 0 (bytes.take Source.blockSize) =
      .ok ([], left)) :
    Source.blocks Source.blockSize (bytes.drop Source.blockSize) = [] := by
  have hlen : (bytes.take Source.blockSize).length < 4 := by
    cases h : bytes.take Source.blockSize with
    | nil => decide
    | cons b rest =>
      rw [h] at short
      obtain ⟨size, damage, hr⟩ := incomplete_of_decodeFrom_nil short
      exact length_of_readUtf16_incomplete hr
  have hdrop : bytes.drop Source.blockSize = [] := by
    rw [List.drop_eq_nil_iff]
    rw [List.length_take] at hlen
    unfold Source.blockSize at hlen ⊢
    omega
  rw [hdrop, blocks_nil]

lemma ofBytes_of_lacksMark {bytes : Bytes} (h : LacksMark bytes) :
    Source.ofBytes .markedUtf16 bytes = ⟨[], some .noByteOrderMark⟩ := by
  obtain ⟨text, left, some_text, read⟩ := h.readable
  have hb : bytes ≠ [] := by
    rintro rfl
    rw [List.take_nil, Scheme.decodeFrom] at read
    simp only [Except.ok.injEq, Prod.mk.injEq] at read
    exact some_text read.1.symm
  unfold Source.ofBytes
  rw [blocks_of_ne_nil (by decide) hb, Decoder.start, Source.ofBlocks]
  have hfeed := feed_beforeMark [] (bytes.take Source.blockSize) false
  rw [List.nil_append] at hfeed
  generalize Decoder.feed ⟨.beforeMark, []⟩ (bytes.take Source.blockSize) false = outcome at hfeed
  cases hfeed with
  | undecodable cause =>
    obtain marked | failed := cause
    · exact absurd ((marked_take_iff bytes).mp marked) h.unmarked
    · rw [read] at failed
      cases failed
  | decided text hd marked => exact absurd ((marked_take_iff bytes).mp marked) h.unmarked
  | waiting short =>
    rw [read] at short
    simp only [Except.ok.injEq, Prod.mk.injEq] at short
    exact absurd short.1 some_text
  | lacking unmarked some_text read => rfl

lemma lacksMark_of_ofBytes {bytes : Bytes}
    (h : (Source.ofBytes .markedUtf16 bytes).fault = some .noByteOrderMark) : LacksMark bytes := by
  by_cases hb : bytes = []
  · subst hb
    unfold Source.ofBytes at h
    rw [blocks_nil] at h
    have short : (Scheme.utf16 .little).decodeFrom false 0 [] = .ok ([], []) := by
      rw [Scheme.decodeFrom]
    exact absurd h (ofBlocks_fault_of_waiting short)
  · unfold Source.ofBytes at h
    rw [blocks_of_ne_nil (by decide) hb, Decoder.start, Source.ofBlocks] at h
    have hfeed := feed_beforeMark [] (bytes.take Source.blockSize) false
    rw [List.nil_append] at hfeed
    generalize Decoder.feed ⟨.beforeMark, []⟩ (bytes.take Source.blockSize) false = outcome
      at h hfeed
    cases hfeed with
    | undecodable cause => simp at h
    | decided text hd marked => exact absurd h (ofBlocks_fault_of_decided hd _ _)
    | waiting short =>
      rw [blocks_eq_nil_of_waiting short] at h
      exact absurd h (ofBlocks_fault_of_waiting short)
    | lacking unmarked some_text read =>
      exact ⟨fun marked => unmarked ((marked_take_iff bytes).mpr marked), _, _, some_text, read⟩

end Marked

/-- Reading a file ends for lack of a byte-order mark just when its encoding asks for a mark and
the file lacks it. -/
theorem ofBytes_noByteOrderMark_iff (encoding : Encoding) (bytes : Bytes) :
    (Source.ofBytes encoding bytes).fault = some .noByteOrderMark ↔
      encoding = .markedUtf16 ∧ LacksMark bytes := by
  cases encoding with
  | plain scheme =>
    have h := ofBlocks_fault_of_decided (d := ⟨.decided scheme, []⟩) (by simp) []
      (Source.blocks Source.blockSize bytes)
    exact iff_of_false h (by simp)
  | signedUtf8 =>
    have h := ofBlocks_fault_of_decided (d := ⟨.beforeSignature, []⟩) (by simp) []
      (Source.blocks Source.blockSize bytes)
    exact iff_of_false h (by simp)
  | markedUtf16 =>
    constructor
    · intro h
      exact ⟨rfl, lacksMark_of_ofBytes h⟩
    · rintro ⟨-, h⟩
      rw [ofBytes_of_lacksMark h]

end OnePass.Proofs
