import Mathlib.Computability.Language
import OnePass.Proofs.CheckedAccess

/-!
# The language of quoted spans

What may precede a comment is a regular language: single characters that are neither quote nor
comment marks, and quoted spans that are closed. The scan of a line comes to stand outside quoted
spans just behind the texts of this language, so that a comment starts at the one comment mark that
has such a text before it, if there is any.
-/

namespace OnePass.Proofs

open scoped Computability

section Languages

variable (c : Config)

def anyChar : Language Char := {s | ∃ ch, s = [ch]}

/-- A character that is no mark outside quoted spans. -/
def plainChars : Language Char :=
  {s | ∃ ch, s = [ch] ∧ [ch] ≠ c.quoteMark ∧ [ch] ≠ c.commentMark}

/-- What a quoted span is made of: a character behind an escape mark, or one that is neither an
escape nor a quote mark. -/
def spanItems : Language Char :=
  {s | (∃ ch, s = c.escapeMark ++ [ch]) ∨
    ∃ ch, s = [ch] ∧ [ch] ≠ c.escapeMark ∧ [ch] ≠ c.quoteMark}

def quotedSpans : Language Char := {c.quoteMark} * (spanItems c)∗ * {c.quoteMark}

/-- What may precede a comment. -/
def codeTexts : Language Char := (plainChars c + quotedSpans c)∗

/-- The texts that take a scan from where it stands to outside quoted spans. -/
def closingTexts : Scan → Language Char
  | .outside => codeTexts c
  | .inside => (spanItems c)∗ * ({c.quoteMark} * codeTexts c)
  | .escaped => anyChar * ((spanItems c)∗ * ({c.quoteMark} * codeTexts c))

end Languages

/-- A comment starts at a position of a raw line. -/
structure StartsComment (c : Config) (raw : Text) (i : Nat) : Prop where
  mark : ∃ ch, raw[i]? = some ch ∧ [ch] = c.commentMark
  code : raw.take i ∈ codeTexts c

/-- A raw line is cut where its comment starts. -/
structure CutAtComment (c : Config) (location : Location) (raw : Text) : Prop where
  unique : ∀ i j, StartsComment c raw i → StartsComment c raw j → i = j
  cut : ∀ i, StartsComment c raw i →
    Line.normalize c location raw = .ok (Text.trimRight (raw.take i))
  uncut : (∀ i, ¬StartsComment c raw i) → Line.normalize c location raw = .ok (Text.trimRight raw)
  /-- The scan by position comes to an end, there or at the end of the line. -/
  ends : ∃ n, commentStart c raw 0 false = .ok n ∧
    (StartsComment c raw n ∨ n = raw.length ∧ ∀ i, ¬StartsComment c raw i)

section Accepted

variable {c : Config}

lemma append_mem_kstar {l : Language Char} {s t : Text} (hs : s ∈ l) (ht : t ∈ l∗) :
    s ++ t ∈ l∗ :=
  (mul_kstar_le_kstar : l * l∗ ≤ l∗) (Language.append_mem_mul hs ht)

/-- A scan is taken through the repetition of texts by a state that each of them leads back to. -/
lemma end?_of_mem_kstar {l : Language Char} {s : Scan} (h : ∀ t ∈ l, s.end? c t = some s)
    {text : Text} (ht : text ∈ l∗) : s.end? c text = some s := by
  obtain ⟨parts, rfl, hparts⟩ := Language.mem_kstar.mp ht
  clear ht
  induction parts with
  | nil => rfl
  | cons part parts ih =>
    obtain ⟨hpart, hrest⟩ := List.forall_mem_cons.mp hparts
    rw [List.flatten_cons, end?_append, h part hpart, Option.bind_some]
    exact ih hrest

lemma end?_of_mem_spanItems (valid : c.Valid) {s : Text} (h : s ∈ spanItems c) :
    Scan.inside.end? c s = some .inside := by
  obtain ⟨⟨e, he, -⟩, -⟩ := escapeMark_of_valid valid
  rcases h with ⟨ch, rfl⟩ | ⟨ch, rfl, hescape, hquote⟩
  · rw [he, List.singleton_append, Scan.end?, Scan.next, if_pos he.symm]
    rfl
  · rw [Scan.end?, Scan.next, if_neg hescape, if_neg hquote]
    rfl

lemma end?_of_mem_quotedSpans (valid : c.Valid) {s : Text} (h : s ∈ quotedSpans c) :
    Scan.outside.end? c s = some .outside := by
  obtain ⟨⟨q, hq, -⟩, -⟩ := outsideMarks_of_valid valid
  have hescape := (escapeMark_of_valid valid).2
  obtain ⟨front, hfront, _, rfl, rfl⟩ := Language.mem_mul.mp h
  obtain ⟨_, rfl, items, hitems, rfl⟩ := Language.mem_mul.mp hfront
  have hopen : Scan.outside.end? c c.quoteMark = some .inside := by
    rw [hq, Scan.end?, Scan.next, if_pos hq.symm]
    rfl
  have hclose : Scan.inside.end? c c.quoteMark = some .outside := by
    rw [hq] at hescape
    rw [hq, Scan.end?, Scan.next, if_neg hescape, if_pos hq.symm]
    rfl
  have hinside := end?_of_mem_kstar (fun t => end?_of_mem_spanItems valid) hitems
  rw [end?_append, end?_append, hopen, Option.bind_some, hinside, Option.bind_some, hclose]

theorem end?_of_mem_codeTexts (valid : c.Valid) {s : Text} (h : s ∈ codeTexts c) :
    Scan.outside.end? c s = some .outside := by
  refine end?_of_mem_kstar (fun t ht => ?_) h
  rcases (Language.mem_add _ _ _).mp ht with ⟨ch, rfl, hquote, hcomment⟩ | hspan
  · rw [Scan.end?, Scan.next, if_neg hquote, if_neg hcomment]
    rfl
  · exact end?_of_mem_quotedSpans valid hspan

lemma mem_closingTexts_inside {items rest : Text} (hitems : items ∈ (spanItems c)∗)
    (hrest : rest ∈ codeTexts c) : items ++ (c.quoteMark ++ rest) ∈ closingTexts c .inside :=
  Language.append_mem_mul hitems (Language.append_mem_mul rfl hrest)

lemma exists_of_mem_closingTexts_inside {text : Text} (h : text ∈ closingTexts c .inside) :
    ∃ items ∈ (spanItems c)∗, ∃ rest ∈ codeTexts c, text = items ++ (c.quoteMark ++ rest) := by
  obtain ⟨items, hitems, tail, htail, rfl⟩ := Language.mem_mul.mp h
  obtain ⟨_, rfl, rest, hrest, rfl⟩ := Language.mem_mul.mp htail
  exact ⟨items, hitems, rest, hrest, rfl⟩

lemma item_mem_closingTexts {item text : Text} (hitem : item ∈ spanItems c)
    (h : text ∈ closingTexts c .inside) : item ++ text ∈ closingTexts c .inside := by
  obtain ⟨items, hitems, rest, hrest, rfl⟩ := exists_of_mem_closingTexts_inside h
  rw [← List.append_assoc]
  exact mem_closingTexts_inside (append_mem_kstar hitem hitems) hrest

lemma cons_mem_closingTexts {s s' : Scan} {ch : Char} {text : Text}
    (hnext : s.next c ch = some s') (h : text ∈ closingTexts c s') :
    ch :: text ∈ closingTexts c s := by
  cases s with
  | outside =>
    rw [Scan.next] at hnext
    split_ifs at hnext with hquote hcomment
    · obtain rfl := Option.some.inj hnext
      obtain ⟨items, hitems, rest, hrest, rfl⟩ := exists_of_mem_closingTexts_inside h
      have hspan : c.quoteMark ++ items ++ c.quoteMark ∈ quotedSpans c :=
        Language.append_mem_mul (Language.append_mem_mul rfl hitems) rfl
      have hcode : c.quoteMark ++ items ++ c.quoteMark ++ rest ∈ codeTexts c :=
        append_mem_kstar (Or.inr hspan) hrest
      change ch :: (items ++ (c.quoteMark ++ rest)) ∈ codeTexts c
      rwa [← hquote, List.append_assoc, List.append_assoc, List.singleton_append, hquote] at hcode
    · obtain rfl := Option.some.inj hnext
      have hplain : [ch] ∈ plainChars c := ⟨ch, rfl, hquote, hcomment⟩
      exact append_mem_kstar (Or.inl hplain) h
  | inside =>
    rw [Scan.next] at hnext
    split_ifs at hnext with hescape hquote
    · obtain rfl := Option.some.inj hnext
      obtain ⟨_, ⟨x, rfl⟩, text, htext, rfl⟩ := Language.mem_mul.mp h
      have hitem : c.escapeMark ++ [x] ∈ spanItems c := Or.inl ⟨x, rfl⟩
      rw [← hescape] at hitem
      exact item_mem_closingTexts hitem htext
    · obtain rfl := Option.some.inj hnext
      have hclosed := mem_closingTexts_inside (Language.nil_mem_kstar (spanItems c)) h
      rwa [← hquote] at hclosed
    · obtain rfl := Option.some.inj hnext
      have hitem : [ch] ∈ spanItems c := Or.inr ⟨ch, rfl, hescape, hquote⟩
      exact item_mem_closingTexts hitem h
  | escaped =>
    obtain rfl := Option.some.inj hnext
    have hchar : [ch] ∈ anyChar := ⟨ch, rfl⟩
    exact Language.append_mem_mul hchar h

theorem mem_closingTexts_of_end? {s : Scan} {text : Text} (h : s.end? c text = some .outside) :
    text ∈ closingTexts c s := by
  induction text generalizing s with
  | nil =>
    obtain rfl := Option.some.inj h
    exact Language.nil_mem_kstar _
  | cons ch text ih =>
    rw [Scan.end?] at h
    cases hn : s.next c ch with
    | none =>
      rw [hn] at h
      cases h
    | some s' =>
      rw [hn] at h
      exact cons_mem_closingTexts hn (ih h)

/-- The scan of a text ends outside quoted spans just when the text may precede a comment. -/
theorem end?_eq_outside_iff (valid : c.Valid) (s : Text) :
    Scan.outside.end? c s = some .outside ↔ s ∈ codeTexts c :=
  ⟨mem_closingTexts_of_end?, end?_of_mem_codeTexts valid⟩

end Accepted

section Starts

variable {c : Config} {raw : Text}

lemma exists_mark_of_comment {s : Scan} {text : Text} (h : s.end? c text = none) :
    ∃ before ch after, text = before ++ ch :: after ∧ s.end? c before = some .outside ∧
      [ch] = c.commentMark := by
  induction text generalizing s with
  | nil => cases h
  | cons ch text ih =>
    rw [Scan.end?] at h
    cases hn : s.next c ch with
    | none =>
      obtain ⟨rfl, hmark⟩ := next_eq_none hn
      exact ⟨[], ch, text, rfl, rfl, hmark⟩
    | some s' =>
      rw [hn] at h
      obtain ⟨before, mark, after, rfl, hbefore, hmark⟩ := ih h
      refine ⟨ch :: before, mark, after, rfl, ?_, hmark⟩
      rw [Scan.end?, hn]
      exact hbefore

/-- The code of a line reaches just to where its comment starts. -/
theorem code_of_startsComment (valid : c.Valid) {i : Nat} (h : StartsComment c raw i) :
    Scan.outside.code c raw = raw.take i ∧ (Scan.outside.code c raw).length = i := by
  obtain ⟨⟨ch, hch, hmark⟩, hcode⟩ := h
  obtain ⟨hi, hget⟩ := List.getElem?_eq_some_iff.mp hch
  have hsplit : raw = raw.take i ++ (c.commentMark ++ raw.drop (i + 1)) := by
    rw [← hmark, ← hget, List.singleton_append, List.getElem_cons_drop, List.take_append_drop]
  have htake : Scan.outside.code c raw = raw.take i := by
    conv_lhs => rw [hsplit]
    rw [code_append (end?_of_mem_codeTexts valid hcode), code_comment valid, List.append_nil]
  refine ⟨htake, ?_⟩
  rw [htake, List.length_take, Nat.min_eq_left (Nat.le_of_lt hi)]

theorem exists_startsComment (h : Scan.outside.end? c raw = none) : ∃ i, StartsComment c raw i := by
  obtain ⟨before, ch, after, rfl, hbefore, hmark⟩ := exists_mark_of_comment h
  refine ⟨before.length, ⟨ch, by simp, hmark⟩, ?_⟩
  rw [List.take_left]
  exact mem_closingTexts_of_end? hbefore

lemma code_of_not_startsComment (h : ∀ i, ¬StartsComment c raw i) :
    Scan.outside.code c raw = raw := by
  cases hend : Scan.outside.end? c raw with
  | none =>
    obtain ⟨i, hi⟩ := exists_startsComment hend
    exact absurd hi (h i)
  | some s => exact code_of_no_comment hend

end Starts

/-- The scan recognises quoted spans. A line below the limit is cut at the one comment mark that
stands behind a text of single characters and closed quoted spans, or it is kept as a whole. -/
theorem comment_starts_behind_code (c : Config) (valid : c.Valid) (location : Location) (raw : Text)
    (short : raw.length < c.lineLimit) : CutAtComment c location raw := by
  have hnormal : Line.normalize c location raw =
      .ok (Text.trimRight (Scan.outside.code c raw)) := by
    rw [Line.normalize, if_neg (Int.not_le.mpr short), Line.strip]
  refine ⟨fun i j hi hj => ?_, fun i hi => ?_, fun hnone => ?_, _, commentStart_eq c raw, ?_⟩
  · rw [← (code_of_startsComment valid hi).2, (code_of_startsComment valid hj).2]
  · rw [hnormal, (code_of_startsComment valid hi).1]
  · rw [hnormal, code_of_not_startsComment hnone]
  · by_cases hstart : ∃ i, StartsComment c raw i
    · obtain ⟨i, hi⟩ := hstart
      rw [(code_of_startsComment valid hi).2]
      exact Or.inl hi
    · rw [not_exists] at hstart
      rw [code_of_not_startsComment hstart]
      exact Or.inr ⟨rfl, hstart⟩

/-- An escaped quote mark and a comment mark inside a span, which is code, and behind it a comment
with an open quote. -/
theorem comment_behind_escaped_quote :
    let c : Config := {}
    let raw := "LDA '\\';' ;it's".toList
    c.Valid ∧ (raw.length : Int) < c.lineLimit ∧ StartsComment c raw 10 ∧
      CutAtComment c ⟨['f'], 1⟩ raw ∧
      Line.normalize c ⟨['f'], 1⟩ raw = .ok "LDA '\\';'".toList := by
  have valid : ({} : Config).Valid := by decide
  have short : ("LDA '\\';' ;it's".toList.length : Int) < ({} : Config).lineLimit := by decide
  have hstarts : StartsComment {} "LDA '\\';' ;it's".toList 10 :=
    ⟨⟨';', by decide, by decide⟩, (end?_eq_outside_iff valid _).mp (by decide)⟩
  have hcut := comment_starts_behind_code {} valid ⟨['f'], 1⟩ _ short
  exact ⟨valid, short, hstarts, hcut, hcut.cut 10 hstarts⟩

end OnePass.Proofs
