import Mathlib.Data.List.TakeWhile
import OnePass.Mnemonic.Table
import OnePass.Line.Statement
import OnePass.Proofs.ScanSplit

/-!
# Writing a line and reading it back

A statement can be written as a raw line in many ways: with any blanks around its fields, a comment
behind them and any line ending. Taking off the comment and reading the fields of such a line gives
the statement back, provided that its fields could stand on a line in the first place.
-/

namespace OnePass.Proofs

/-- A text of blanks. -/
def IsBlankText (s : Text) : Prop := ∀ ch ∈ s, Text.isBlank ch = true

instance (s : Text) : Decidable (IsBlankText s) :=
  decidable_of_iff (s.all Text.isBlank = true) List.all_eq_true

/-- The endings of a line, the first of which is none. -/
def lineEndings : List Text := [[], ['\n'], ['\r'], ['\r', '\n']]

/-- What a line holds beside its fields. -/
structure Spacing where
  indent : Text
  afterLabel : Text
  afterMnemonic : Text
  tail : Text
  /-- The text behind the comment mark. -/
  comment : Option Text
  ending : Text
  indent_blank : IsBlankText indent
  afterLabel_blank : IsBlankText afterLabel
  afterLabel_ne_nil : afterLabel ≠ []
  afterMnemonic_blank : IsBlankText afterMnemonic
  afterMnemonic_ne_nil : afterMnemonic ≠ []
  tail_blank : IsBlankText tail
  ending_mem : ending ∈ lineEndings

/-- A label or a mnemonic that can stand on a line: a field without the marks that count outside
quoted spans. -/
structure IsWord (c : Config) (s : Text) : Prop where
  keyword : IsKeyword s
  plain : IsPlain c s

/-- A text that starts with a character that is not blank. -/
def StartsFilled (s : Text) : Prop := ∃ ch, s.head? = some ch ∧ Text.isBlank ch = false

/-- A text that ends with a character that is not blank. -/
def EndsFilled (s : Text) : Prop := ∃ ch, s.getLast? = some ch ∧ Text.isBlank ch = false

/-- A text that the scan passes from outside quoted spans to outside, without meeting a comment. -/
def IsClosed (c : Config) (s : Text) : Prop := Scan.outside.end? c s = some .outside

/-- An operand that can stand on a line. -/
structure IsOperand (c : Config) (s : Text) : Prop where
  first : StartsFilled s
  last : EndsFilled s
  closed : IsClosed c s

/-- A statement that can be written as a line. -/
structure Writable (c : Config) (st : Statement) : Prop where
  nonblank : st.label ≠ none ∨ st.mnemonic ≠ none
  label : ∀ l, st.label = some l → IsWord c l
  mnemonic : ∀ m, st.mnemonic = some m → IsWord c m
  /-- Without a label, the mnemonic must not look like one. -/
  unlabelled : ∀ m, st.label = none → st.mnemonic = some m → ¬c.labelMark <:+ m
  operand : ∀ o, st.operand = some o → IsOperand c o
  operand_follows : st.mnemonic = none → st.operand = none

section Writing

variable (c : Config) (sp : Spacing)

/-- An operand with the blanks before it. -/
def writtenOperand : Option Text → Text
  | none => []
  | some o => sp.afterMnemonic ++ o

/-- The fields of a statement with the blanks between them. -/
def writtenFields (st : Statement) : Text :=
  match st.label, st.mnemonic with
  | none, none => []
  | some l, none => l ++ c.labelMark
  | none, some m => m ++ writtenOperand sp st.operand
  | some l, some m => l ++ c.labelMark ++ (sp.afterLabel ++ (m ++ writtenOperand sp st.operand))

/-- A comment with its mark. -/
def writtenComment : Option Text → Text
  | none => []
  | some text => c.commentMark ++ text

/-- A statement as a raw line. -/
def writtenLine (st : Statement) : Text :=
  sp.indent ++ writtenFields c sp st ++ sp.tail ++ writtenComment c sp.comment ++ sp.ending

end Writing

section Filled

lemma startsFilled_append {s : Text} (h : StartsFilled s) (t : Text) : StartsFilled (s ++ t) := by
  obtain ⟨ch, hhead, hch⟩ := h
  obtain ⟨r, rfl⟩ := List.head?_eq_some_iff.mp hhead
  exact ⟨ch, rfl, hch⟩

lemma endsFilled_append (s : Text) {t : Text} (h : EndsFilled t) : EndsFilled (s ++ t) := by
  obtain ⟨ch, hlast, hch⟩ := h
  obtain ⟨r, rfl⟩ := List.getLast?_eq_some_iff.mp hlast
  exact ⟨ch, by simp, hch⟩

lemma startsFilled_of_isKeyword {s : Text} (h : IsKeyword s) : StartsFilled s := by
  obtain ⟨hne, hs⟩ := h
  exact ⟨s.head hne, List.head?_eq_some_head hne, hs _ (List.head_mem hne)⟩

lemma endsFilled_of_isKeyword {s : Text} (h : IsKeyword s) : EndsFilled s := by
  obtain ⟨hne, hs⟩ := h
  exact ⟨s.getLast hne, List.getLast?_eq_some_getLast hne, hs _ (List.getLast_mem hne)⟩

end Filled

section Fields

lemma nextField_append_blank {blanks : Text} (h : IsBlankText blanks) (s : Text) :
    Text.nextField (blanks ++ s) = Text.nextField s := by
  rw [Text.nextField, Text.nextField, List.dropWhile_append_of_pos h]

lemma nextField_word {word : Text} (hw : IsKeyword word) (rest : Text)
    (hr : ∀ ch, rest.head? = some ch → Text.isBlank ch = true) :
    Text.nextField (word ++ rest) = some (word, rest.dropWhile Text.isBlank) := by
  obtain ⟨hne, hw⟩ := hw
  cases word with
  | nil => exact absurd rfl hne
  | cons ch word =>
    obtain ⟨hch, hword⟩ := List.forall_mem_cons.mp hw
    have hpos : ∀ d ∈ word, (!Text.isBlank d) = true := fun d hd => by simp [hword d hd]
    have hstop : rest.takeWhile (fun d => !Text.isBlank d) = [] ∧
        rest.dropWhile (fun d => !Text.isBlank d) = rest := by
      cases rest with
      | nil => exact ⟨rfl, rfl⟩
      | cons d rest =>
        have hd := hr d rfl
        exact ⟨List.takeWhile_cons_of_neg (by simp [hd]), List.dropWhile_cons_of_neg (by simp [hd])⟩
    rw [Text.nextField, List.cons_append, List.dropWhile_cons_of_neg (by simp [hch])]
    simp only [List.takeWhile_append_of_pos hpos, List.dropWhile_append_of_pos hpos, hstop,
      List.append_nil]

lemma nextField_last_word {word : Text} (hw : IsKeyword word) :
    Text.nextField word = some (word, []) := by
  have h := nextField_word hw [] (by simp)
  rwa [List.append_nil] at h

lemma nextField_separated {word blanks rest : Text} (hw : IsKeyword word)
    (hb : IsBlankText blanks) (hne : blanks ≠ []) (hr : StartsFilled rest) :
    Text.nextField (word ++ (blanks ++ rest)) = some (word, rest) := by
  have hdrop : (blanks ++ rest).dropWhile Text.isBlank = rest := by
    obtain ⟨ch, hhead, hch⟩ := hr
    obtain ⟨t, rfl⟩ := List.head?_eq_some_iff.mp hhead
    rw [List.dropWhile_append_of_pos hb, List.dropWhile_cons_of_neg (by simp [hch])]
  have hstop : ∀ ch, (blanks ++ rest).head? = some ch → Text.isBlank ch = true := by
    intro ch hhead
    rw [List.head?_append_of_ne_nil _ hne] at hhead
    exact hb ch (List.mem_of_mem_head? hhead)
  have h := nextField_word hw (blanks ++ rest) hstop
  rwa [hdrop] at h

end Fields

section Reading

variable {c : Config} (sp : Spacing) {st : Statement}

lemma nextField_mnemonic {m : Text} (hm : IsKeyword m) {operand : Option Text}
    (ho : ∀ o, operand = some o → IsOperand c o) :
    Text.nextField (m ++ writtenOperand sp operand) = some (m, operand.getD []) := by
  cases operand with
  | none =>
    rw [writtenOperand, List.append_nil]
    exact nextField_last_word hm
  | some o =>
    exact nextField_separated hm sp.afterMnemonic_blank sp.afterMnemonic_ne_nil (ho o rfl).first

lemma field?_operand {operand : Option Text} (ho : ∀ o, operand = some o → IsOperand c o) :
    Statement.field? (operand.getD []) = operand := by
  cases operand with
  | none => rfl
  | some o =>
    obtain ⟨ch, hhead, -⟩ := (ho o rfl).first
    obtain ⟨t, rfl⟩ := List.head?_eq_some_iff.mp hhead
    rfl

lemma label_read (valid : c.Valid) {l : Text} (hl : IsKeyword l) :
    IsKeyword (l ++ c.labelMark) ∧
      Statement.field? (Statement.labelName c.labelMark (l ++ c.labelMark)) = some l := by
  obtain ⟨m, hm, hmb⟩ := labelMark_of_valid valid
  obtain ⟨hne, hl⟩ := hl
  rw [hm]
  refine ⟨⟨by simp, ?_⟩, ?_⟩
  · intro ch hch
    obtain hch | hch := List.mem_append.mp hch
    · exact hl ch hch
    · rwa [List.mem_singleton.mp hch]
  · have hname : Statement.labelName [m] (l ++ [m]) = l := by simp [Statement.labelName]
    rw [hname]
    cases l with
    | nil => exact absurd rfl hne
    | cons ch l => rfl

lemma parse?_writtenFields (valid : c.Valid) (hw : Writable c st) :
    Statement.parse? c.labelMark (sp.indent ++ writtenFields c sp st) = some st := by
  obtain ⟨label, mnemonic, operand⟩ := st
  unfold Statement.parse?
  rw [nextField_append_blank sp.indent_blank]
  cases label with
  | none =>
    cases mnemonic with
    | none => exact absurd hw.nonblank (by simp)
    | some m =>
      have hfield := nextField_mnemonic sp (hw.mnemonic m rfl).keyword hw.operand
      simp only [writtenFields, hfield, if_neg (hw.unlabelled m rfl rfl), field?_operand hw.operand]
  | some l =>
    obtain ⟨hkeyword, hname⟩ := label_read valid (hw.label l rfl).keyword
    have hsuffix : c.labelMark <:+ l ++ c.labelMark := List.suffix_append l c.labelMark
    cases mnemonic with
    | none =>
      obtain rfl : operand = none := hw.operand_follows rfl
      have hend : Text.nextField [] = none := rfl
      simp only [writtenFields, nextField_last_word hkeyword, if_pos hsuffix, hname, hend]
    | some m =>
      have hm := (hw.mnemonic m rfl).keyword
      have hfirst := nextField_separated hkeyword sp.afterLabel_blank sp.afterLabel_ne_nil
        (startsFilled_append (startsFilled_of_isKeyword hm) (writtenOperand sp operand))
      simp only [writtenFields, hfirst, if_pos hsuffix, hname, nextField_mnemonic sp hm hw.operand,
        field?_operand hw.operand]

end Reading

section Stripping

variable {c : Config}

lemma isClosed_append {s t : Text} (hs : IsClosed c s) (ht : IsClosed c t) :
    IsClosed c (s ++ t) := by
  rw [IsClosed, end?_append, hs, Option.bind_some]
  exact ht

lemma isClosed_blank (valid : c.Valid) {s : Text} (h : IsBlankText s) : IsClosed c s := by
  have hs := isPlain_of_blank valid h
  exact end?_of_isPlain hs

variable (sp : Spacing) {st : Statement}

lemma closed_writtenFields (valid : c.Valid) (hw : Writable c st) :
    IsClosed c (writtenFields c sp st) ∧ EndsFilled (writtenFields c sp st) := by
  obtain ⟨label, mnemonic, operand⟩ := st
  have hlabel : ∀ l, label = some l →
      IsClosed c (l ++ c.labelMark) ∧ EndsFilled (l ++ c.labelMark) := by
    intro l hl
    have hword := hw.label l hl
    exact ⟨isClosed_append (end?_of_isPlain hword.plain) (end?_of_isPlain (isPlain_labelMark valid)),
      endsFilled_of_isKeyword (label_read valid hword.keyword).1⟩
  have hrest : ∀ m, mnemonic = some m → IsClosed c (m ++ writtenOperand sp operand) ∧
      EndsFilled (m ++ writtenOperand sp operand) := by
    intro m hm
    have hword := hw.mnemonic m hm
    have hclosed : IsClosed c m := end?_of_isPlain hword.plain
    cases operand with
    | none =>
      rw [writtenOperand, List.append_nil]
      exact ⟨hclosed, endsFilled_of_isKeyword hword.keyword⟩
    | some o =>
      have ho := hw.operand o rfl
      exact ⟨isClosed_append hclosed
          (isClosed_append (isClosed_blank valid sp.afterMnemonic_blank) ho.closed),
        endsFilled_append m (endsFilled_append sp.afterMnemonic ho.last)⟩
  cases label with
  | none =>
    cases mnemonic with
    | none => exact absurd hw.nonblank (by simp)
    | some m => exact hrest m rfl
  | some l =>
    cases mnemonic with
    | none => exact hlabel l rfl
    | some m =>
      exact ⟨isClosed_append (hlabel l rfl).1
          (isClosed_append (isClosed_blank valid sp.afterLabel_blank) (hrest m rfl).1),
        endsFilled_append _ (endsFilled_append _ (hrest m rfl).2)⟩

lemma isBlankText_ending : IsBlankText sp.ending := by
  have hall : ∀ ending ∈ lineEndings, IsBlankText ending := by decide
  exact hall sp.ending sp.ending_mem

lemma code_behind_fields (valid : c.Valid) :
    IsBlankText (Scan.outside.code c (writtenComment c sp.comment ++ sp.ending)) := by
  cases sp.comment with
  | none =>
    have h := code_append (isClosed_blank valid (isBlankText_ending sp)) []
    rw [writtenComment, List.nil_append]
    rw [List.append_nil, Scan.code, List.append_nil] at h
    rw [h]
    exact isBlankText_ending sp
  | some text =>
    rw [writtenComment, List.append_assoc, code_comment valid]
    intro ch hch
    cases hch

lemma strip_writtenLine (valid : c.Valid) (hw : Writable c st) :
    Line.strip c (writtenLine c sp st) = sp.indent ++ writtenFields c sp st := by
  obtain ⟨hclosed, hfilled⟩ := closed_writtenFields sp valid hw
  have hfront : IsClosed c (sp.indent ++ writtenFields c sp st ++ sp.tail) :=
    isClosed_append (isClosed_append (isClosed_blank valid sp.indent_blank) hclosed)
      (isClosed_blank valid sp.tail_blank)
  have hkept : Text.trimRight (sp.indent ++ writtenFields c sp st) =
      sp.indent ++ writtenFields c sp st := by
    obtain ⟨ch, hlast, hch⟩ := endsFilled_append sp.indent hfilled
    apply trimRight_eq_self
    intro d hd
    rw [hlast, Option.some.injEq] at hd
    exact hd ▸ hch
  rw [Line.strip, writtenLine, List.append_assoc _ (writtenComment c sp.comment) sp.ending,
    code_append hfront, trimRight_append_blank _ (code_behind_fields sp valid),
    trimRight_append_blank _ sp.tail_blank, hkept]

end Stripping

/-- A statement that is written as a line, in any way that keeps the line below the limit, is read
back from it. -/
theorem read_writtenLine (c : Config) (valid : c.Valid) (sp : Spacing) (st : Statement)
    (hw : Writable c st) (short : (writtenLine c sp st).length < c.lineLimit)
    (location location' : Location) :
    Line.normalize c location (writtenLine c sp st) >>= Statement.parse c location' = .ok st := by
  have hnormal : Line.normalize c location (writtenLine c sp st) =
      .ok (sp.indent ++ writtenFields c sp st) := by
    rw [Line.normalize, if_neg (Int.not_le.mpr short), strip_writtenLine sp valid hw]
  rw [hnormal]
  change Statement.parse c location' (sp.indent ++ writtenFields c sp st) = .ok st
  rw [Statement.parse, parse?_writtenFields sp valid hw]

/-- A label and a mnemonic that hold the label mark, an operand with an escaped quote and a comment
mark inside a quoted span, and a comment with an open quote. -/
theorem read_crowded_line :
    let c : Config := {}
    let st : Statement := ⟨some "a:".toList, some "b:".toList, some "'\\';' , \\".toList⟩
    let sp : Spacing :=
      { indent := ['\t'], afterLabel := ['\u2003', ' '], afterMnemonic := [' '], tail := [' ']
        comment := some "; it's".toList, ending := ['\r', '\n'], indent_blank := by decide
        afterLabel_blank := by decide, afterLabel_ne_nil := by decide
        afterMnemonic_blank := by decide, afterMnemonic_ne_nil := by decide
        tail_blank := by decide, ending_mem := by decide }
    c.Valid ∧ Writable c st ∧ ((writtenLine c sp st).length : Int) < c.lineLimit ∧
      Line.normalize c ⟨['f'], 1⟩ (writtenLine c sp st) >>= Statement.parse c ⟨['f'], 1⟩ =
        .ok st := by
  have valid : ({} : Config).Valid := by decide +kernel
  have hlabel : IsWord {} "a:".toList := ⟨by decide, by decide⟩
  have hmnemonic : IsWord {} "b:".toList := ⟨by decide, by decide⟩
  have hoperand : IsOperand {} "'\\';' , \\".toList :=
    ⟨⟨_, rfl, by decide⟩, ⟨_, rfl, by decide⟩, by unfold IsClosed; decide⟩
  have hw : Writable {} ⟨some "a:".toList, some "b:".toList, some "'\\';' , \\".toList⟩ :=
    ⟨Or.inl (by simp), by rintro _ ⟨⟩; exact hlabel, by rintro _ ⟨⟩; exact hmnemonic,
      by rintro _ ⟨⟩, by rintro _ ⟨⟩; exact hoperand, by rintro ⟨⟩⟩
  exact ⟨valid, hw, by decide, read_writtenLine {} valid _ _ hw (by decide) _ _⟩

end OnePass.Proofs
