import OnePass.Proofs.LineRoundTrip
import OnePass.Proofs.CheckedAccess

/-!
# The grammar of a line

A text that is neither blank nor refused has a form: a label, an instruction or both, with blanks
before, between and behind them. There is one such form, and the statement of the text is what
stands in it. Forms are data that carry what makes them forms.
-/

namespace OnePass.Proofs

/-- Blanks, perhaps none. -/
abbrev Blanks := { s : Text // IsBlankText s }

/-- The blanks between two fields. -/
abbrev Gap := { s : Text // IsBlankText s ∧ s ≠ [] }

abbrev Word := { s : Text // IsKeyword s }

/-- What is kept up to the end of a text once a character that is not blank has come. -/
abbrev Operand := { s : Text // StartsFilled s }

/-- What stands behind a field: blanks up to the end of the text, or something after a gap. -/
inductive Behind (α : Type) where
  | blanks (tail : Blanks)
  | separated (gap : Gap) (next : α)

/-- A mnemonic, perhaps with an operand. -/
structure Instruction where
  mnemonic : Word
  behind : Behind Operand

/-- The form of a line that is not blank. -/
inductive LineForm (mark : Text) where
  | labelled (indent : Blanks) (name : Word) (behind : Behind Instruction)
  /-- Without a label, the mnemonic does not look like one. -/
  | unlabelled (indent : Blanks) (instruction : Instruction)
      (unmarked : ¬mark <:+ instruction.mnemonic.val)

section Writing

variable {α : Type} {mark : Text}

namespace Behind

def text (write : α → Text) : Behind α → Text
  | .blanks tail => tail.val
  | .separated gap next => gap.val ++ write next

/-- What stands behind a field, without the blanks between. -/
def rest (write : α → Text) : Behind α → Text
  | .blanks _ => []
  | .separated _ next => write next

end Behind

namespace Instruction

def text (i : Instruction) : Text := i.mnemonic.val ++ i.behind.text Subtype.val

def operand (i : Instruction) : Option Text :=
  match i.behind with
  | .blanks _ => none
  | .separated _ operand => some operand.val

end Instruction

namespace LineForm

def text : LineForm mark → Text
  | .labelled indent name behind =>
    indent.val ++ (name.val ++ mark ++ behind.text Instruction.text)
  | .unlabelled indent instruction _ => indent.val ++ instruction.text

/-- The fields that stand in a form. -/
def statement : LineForm mark → Statement
  | .labelled _ name (.blanks _) => { label := some name.val }
  | .labelled _ name (.separated _ instruction) =>
    ⟨some name.val, some instruction.mnemonic.val, instruction.operand⟩
  | .unlabelled _ instruction _ => ⟨none, some instruction.mnemonic.val, instruction.operand⟩

end LineForm

end Writing

/-- How a text is read. -/
structure ReadByForm (c : Config) (location : Location) (text : Text) : Prop where
  blank : Statement.parse c location text = .ok {} ↔ IsBlankText text
  /-- It is refused, with a diagnostic that shows it, if its first field is the label mark. -/
  refused : ∀ d, Statement.parse c location text = .error d ↔
    (fields text).head? = some c.labelMark ∧ d = ⟨.emptyLabel, some location, some text⟩
  /-- Any other text has a form, and is read as what stands in it. -/
  read : ∀ st, Statement.parse c location text = .ok st ↔
    IsBlankText text ∧ st = {} ∨
      ∃ form : LineForm c.labelMark, form.text = text ∧ form.statement = st
  unique : ∀ form form' : LineForm c.labelMark, form.text = text → form'.text = text → form = form'

section Unique

variable {α : Type} {p : Char → Bool}

lemma takeWhile_append_of_stop {s t : Text} (hs : ∀ ch ∈ s, p ch = true)
    (ht : ∀ ch, t.head? = some ch → p ch = false) : (s ++ t).takeWhile p = s := by
  rw [List.takeWhile_append_of_pos hs]
  cases t with
  | nil => rw [List.takeWhile_nil, List.append_nil]
  | cons ch t =>
    have hch : ¬p ch = true := by simp [ht ch rfl]
    rw [List.takeWhile_cons_of_neg hch, List.append_nil]

/-- A text falls into two parts in one way if it is known of which characters the first part is made
and that the second starts with another. -/
lemma append_inj_of_stop {s s' t t' : Text} (hs : ∀ ch ∈ s, p ch = true)
    (hs' : ∀ ch ∈ s', p ch = true) (ht : ∀ ch, t.head? = some ch → p ch = false)
    (ht' : ∀ ch, t'.head? = some ch → p ch = false) (h : s ++ t = s' ++ t') : s = s' ∧ t = t' := by
  have hfirst : s = s' := by
    rw [← takeWhile_append_of_stop hs ht, h, takeWhile_append_of_stop hs' ht']
  exact ⟨hfirst, List.append_cancel_left (hfirst ▸ h)⟩

lemma head_of_startsFilled {s : Text} (h : StartsFilled s) (ch : Char) (hhead : s.head? = some ch) :
    Text.isBlank ch = false := by
  obtain ⟨d, hd, hfilled⟩ := h
  obtain rfl : d = ch := Option.some.inj (hd.symm.trans hhead)
  exact hfilled

lemma blank_append_inj {b b' s s' : Text} (hb : IsBlankText b) (hb' : IsBlankText b')
    (hs : StartsFilled s) (hs' : StartsFilled s') (h : b ++ s = b' ++ s') : b = b' ∧ s = s' :=
  append_inj_of_stop hb hb' (head_of_startsFilled hs) (head_of_startsFilled hs') h

lemma head_behind (write : α → Text) (behind : Behind α) (ch : Char)
    (h : (behind.text write).head? = some ch) : Text.isBlank ch = true := by
  cases behind with
  | blanks tail => exact tail.property ch (List.mem_of_mem_head? h)
  | separated gap next =>
    rw [Behind.text, List.head?_append_of_ne_nil _ gap.property.2] at h
    exact gap.property.1 ch (List.mem_of_mem_head? h)

lemma field_append_inj {w w' t t' : Text} (hw : IsKeyword w) (hw' : IsKeyword w')
    (ht : ∀ ch, t.head? = some ch → Text.isBlank ch = true)
    (ht' : ∀ ch, t'.head? = some ch → Text.isBlank ch = true) (h : w ++ t = w' ++ t') :
    w = w' ∧ t = t' := by
  have hfilled : ∀ {u : Text}, IsKeyword u → ∀ ch ∈ u, (!Text.isBlank ch) = true :=
    fun hu ch hch => by rw [hu.2 ch hch, Bool.not_false]
  have hstop : ∀ {u : Text}, (∀ ch, u.head? = some ch → Text.isBlank ch = true) →
      ∀ ch, u.head? = some ch → (!Text.isBlank ch) = false :=
    fun hu ch hch => by rw [hu ch hch, Bool.not_true]
  exact append_inj_of_stop (hfilled hw) (hfilled hw') (hstop ht) (hstop ht') h

lemma blanks_ne_append (tail : Blanks) (gap : Text) {s : Text} (hs : StartsFilled s) :
    tail.val ≠ gap ++ s := by
  intro heq
  obtain ⟨ch, hhead, hch⟩ := hs
  have hmem : ch ∈ tail.val := by
    rw [heq]
    exact List.mem_append_right _ (List.mem_of_mem_head? hhead)
  simp [tail.property ch hmem] at hch

lemma behind_text_injective {write : α → Text} (hinj : Function.Injective write)
    (hfilled : ∀ x, StartsFilled (write x)) : Function.Injective (Behind.text write) := by
  intro behind behind' h
  cases behind with
  | blanks tail =>
    cases behind' with
    | blanks tail' => rw [Subtype.ext h]
    | separated gap next => exact absurd h (blanks_ne_append tail gap.val (hfilled next))
  | separated gap next =>
    cases behind' with
    | blanks tail => exact absurd h.symm (blanks_ne_append tail gap.val (hfilled next))
    | separated gap' next' =>
      obtain ⟨hgap, hnext⟩ :=
        blank_append_inj gap.property.1 gap'.property.1 (hfilled next) (hfilled next') h
      rw [Subtype.ext hgap, hinj hnext]

lemma startsFilled_instruction (i : Instruction) : StartsFilled i.text :=
  startsFilled_append (startsFilled_of_isKeyword i.mnemonic.property) _

lemma instruction_text_injective : Function.Injective Instruction.text := by
  rintro ⟨mnemonic, behind⟩ ⟨mnemonic', behind'⟩ h
  obtain ⟨hmnemonic, hbehind⟩ := field_append_inj mnemonic.property mnemonic'.property
    (head_behind _ behind) (head_behind _ behind') h
  rw [Subtype.ext hmnemonic,
    behind_text_injective Subtype.val_injective Subtype.property hbehind]

end Unique

section Forms

variable {c : Config}

lemma startsFilled_labelled (valid : c.Valid) (name : Word) (behind : Behind Instruction) :
    StartsFilled (name.val ++ c.labelMark ++ behind.text Instruction.text) :=
  startsFilled_append (startsFilled_of_isKeyword (label_read valid name.property).1) _

lemma labelled_ne_unlabelled (valid : c.Valid) (indent indent' : Blanks) (name : Word)
    (behind : Behind Instruction) {i : Instruction} (h : ¬c.labelMark <:+ i.mnemonic.val) :
    indent.val ++ (name.val ++ c.labelMark ++ behind.text Instruction.text) ≠
      indent'.val ++ i.text := by
  intro heq
  obtain ⟨-, hfields⟩ := blank_append_inj indent.property indent'.property
    (startsFilled_labelled valid name behind) (startsFilled_instruction i) heq
  obtain ⟨hfield, -⟩ := field_append_inj (label_read valid name.property).1 i.mnemonic.property
    (head_behind _ behind) (head_behind _ i.behind) hfields
  exact h (hfield ▸ List.suffix_append name.val c.labelMark)

theorem lineForm_text_injective (valid : c.Valid) :
    Function.Injective (LineForm.text : LineForm c.labelMark → Text) := by
  intro form form' h
  cases form with
  | labelled indent name behind =>
    cases form' with
    | labelled indent' name' behind' =>
      obtain ⟨hindent, hfields⟩ := blank_append_inj indent.property indent'.property
        (startsFilled_labelled valid name behind) (startsFilled_labelled valid name' behind') h
      obtain ⟨hname, hbehind⟩ := field_append_inj (label_read valid name.property).1
        (label_read valid name'.property).1 (head_behind _ behind) (head_behind _ behind') hfields
      rw [Subtype.ext hindent, Subtype.ext (List.append_cancel_right hname),
        behind_text_injective instruction_text_injective startsFilled_instruction hbehind]
    | unlabelled indent' i hunmarked =>
      exact absurd h (labelled_ne_unlabelled valid indent indent' name behind hunmarked)
  | unlabelled indent i hunmarked =>
    cases form' with
    | labelled indent' name behind =>
      exact absurd h.symm (labelled_ne_unlabelled valid indent' indent name behind hunmarked)
    | unlabelled indent' i' hunmarked' =>
      obtain ⟨hindent, hfields⟩ := blank_append_inj indent.property indent'.property
        (startsFilled_instruction i) (startsFilled_instruction i') h
      obtain rfl := instruction_text_injective hfields
      rw [Subtype.ext hindent]

end Forms

section Splitting

lemma exists_indent (s : Text) : IsBlankText s ∨
    ∃ (indent : Blanks) (t : Text), indent.val ++ t = s ∧ StartsFilled t := by
  have hsplit := List.takeWhile_append_dropWhile (p := Text.isBlank) (l := s)
  have hindent : IsBlankText (s.takeWhile Text.isBlank) := fun ch => List.mem_takeWhile_imp
  cases hs : s.dropWhile Text.isBlank with
  | nil =>
    rw [hs, List.append_nil] at hsplit
    exact Or.inl (hsplit ▸ hindent)
  | cons ch t =>
    rw [hs] at hsplit
    exact Or.inr ⟨⟨_, hindent⟩, ch :: t, hsplit, ch, rfl, head_of_dropWhile hs⟩

lemma exists_behind {s : Text} (h : ∀ ch, s.head? = some ch → Text.isBlank ch = true) :
    ∃ behind : Behind Operand, behind.text Subtype.val = s := by
  rcases exists_indent s with hs | ⟨gap, t, rfl, ht⟩
  · exact ⟨.blanks ⟨s, hs⟩, rfl⟩
  · refine ⟨.separated ⟨gap.val, gap.property, fun hnil => ?_⟩ ⟨t, ht⟩, rfl⟩
    obtain ⟨ch, hhead, hch⟩ := ht
    rw [hnil, List.nil_append] at h
    rw [h ch hhead] at hch
    cases hch

lemma exists_instruction {s : Text} (h : StartsFilled s) : ∃ i : Instruction, i.text = s := by
  have hsplit := List.takeWhile_append_dropWhile (p := fun ch => !Text.isBlank ch) (l := s)
  have hword : IsKeyword (s.takeWhile fun ch => !Text.isBlank ch) := by
    obtain ⟨ch, hhead, hch⟩ := h
    obtain ⟨t, rfl⟩ := List.head?_eq_some_iff.mp hhead
    refine ⟨by simp [hch], fun d hd => ?_⟩
    simpa using List.mem_takeWhile_imp hd
  have hstop : ∀ ch, (s.dropWhile fun ch => !Text.isBlank ch).head? = some ch →
      Text.isBlank ch = true := by
    intro ch hhead
    obtain ⟨t, ht⟩ := List.head?_eq_some_iff.mp hhead
    simpa using head_of_dropWhile ht
  obtain ⟨behind, hbehind⟩ := exists_behind hstop
  refine ⟨⟨⟨_, hword⟩, behind⟩, ?_⟩
  rw [Instruction.text, hbehind]
  exact hsplit

lemma exists_behind_label (behind : Behind Operand) :
    ∃ behind' : Behind Instruction,
      behind'.text Instruction.text = behind.text Subtype.val := by
  cases behind with
  | blanks tail => exact ⟨.blanks tail, rfl⟩
  | separated gap operand =>
    obtain ⟨i, hi⟩ := exists_instruction operand.property
    exact ⟨.separated gap i, congrArg (gap.val ++ ·) hi⟩

end Splitting

section Reading

variable {α : Type} {c : Config}

lemma nextField_behind (indent : Blanks) {word : Text} (hw : IsKeyword word) {write : α → Text}
    (hfilled : ∀ x, StartsFilled (write x)) (behind : Behind α) :
    Text.nextField (indent.val ++ (word ++ behind.text write)) =
      some (word, behind.rest write) := by
  rw [nextField_append_blank indent.property]
  cases behind with
  | blanks tail =>
    rw [Behind.text, nextField_word hw tail.val (head_behind write (.blanks tail)),
      List.dropWhile_eq_nil_iff.mpr tail.property]
    rfl
  | separated gap next =>
    exact nextField_separated hw gap.property.1 gap.property.2 (hfilled next)

lemma nextField_instruction (indent : Blanks) (i : Instruction) :
    Text.nextField (indent.val ++ i.text) =
      some (i.mnemonic.val, i.behind.rest Subtype.val) :=
  nextField_behind indent i.mnemonic.property Subtype.property i.behind

lemma field?_behind (i : Instruction) :
    Statement.field? (i.behind.rest Subtype.val) = i.operand := by
  obtain ⟨mnemonic, behind⟩ := i
  cases behind with
  | blanks tail => rfl
  | separated gap operand =>
    have hne : operand.val ≠ [] := by
      obtain ⟨ch, hhead, -⟩ := operand.property
      obtain ⟨t, ht⟩ := List.head?_eq_some_iff.mp hhead
      rw [ht]
      exact List.cons_ne_nil ch t
    exact field?_of_ne_nil hne

theorem parse?_lineForm (valid : c.Valid) (form : LineForm c.labelMark) :
    Statement.parse? c.labelMark form.text = some form.statement := by
  unfold Statement.parse?
  cases form with
  | labelled indent name behind =>
    obtain ⟨hfield, hname⟩ := label_read valid name.property
    rw [LineForm.text, nextField_behind indent hfield startsFilled_instruction behind]
    dsimp only
    rw [if_pos (List.suffix_append name.val c.labelMark), hname]
    cases behind with
    | blanks tail => rfl
    | separated gap i =>
      have hnext := nextField_instruction ⟨[], by simp [IsBlankText]⟩ i
      rw [List.nil_append] at hnext
      rw [Behind.rest, hnext]
      dsimp only
      rw [field?_behind]
      rfl
  | unlabelled indent i hunmarked =>
    rw [LineForm.text, nextField_instruction]
    dsimp only
    rw [if_neg hunmarked, field?_behind]
    rfl

/-- Every text is blank, or refused, or it has a form. -/
theorem exists_lineForm (c : Config) (text : Text) :
    IsBlankText text ∨ (fields text).head? = some c.labelMark ∨
      ∃ form : LineForm c.labelMark, form.text = text := by
  rcases exists_indent text with hblank | ⟨indent, t, rfl, ht⟩
  · exact Or.inl hblank
  · obtain ⟨i, rfl⟩ := exists_instruction ht
    right
    by_cases hmark : c.labelMark <:+ i.mnemonic.val
    · obtain ⟨name, hname⟩ := hmark
      by_cases hempty : name = []
      · rw [fields_of_nextField (nextField_instruction indent i), ← hname, hempty]
        exact Or.inl rfl
      · have hword : IsKeyword name := ⟨hempty, fun ch hch =>
          i.mnemonic.property.2 ch (hname ▸ List.mem_append_left _ hch)⟩
        obtain ⟨behind, hbehind⟩ := exists_behind_label i.behind
        refine Or.inr ⟨.labelled indent ⟨name, hword⟩ behind, ?_⟩
        rw [LineForm.text, Instruction.text, hbehind, hname]
    · exact Or.inr ⟨.unlabelled indent i hmark, rfl⟩

lemma statement_ne_blank (form : LineForm c.labelMark) : form.statement ≠ {} := by
  intro hblank
  cases form with
  | labelled indent name behind => cases behind <;> cases hblank
  | unlabelled indent i hunmarked => cases hblank

lemma parse?_of_blank {text : Text} (mark : Text) (h : IsBlankText text) :
    Statement.parse? mark text = some {} := by
  rw [Statement.parse?, (all_blank_iff text).mp (List.all_eq_true.mpr h)]

lemma parse?_eq_some_iff (valid : c.Valid) (text : Text) (st : Statement) :
    Statement.parse? c.labelMark text = some st ↔ IsBlankText text ∧ st = {} ∨
      ∃ form : LineForm c.labelMark, form.text = text ∧ form.statement = st := by
  constructor
  · intro h
    rcases exists_lineForm c text with hblank | hrefused | ⟨form, rfl⟩
    · rw [parse?_of_blank c.labelMark hblank] at h
      exact Or.inl ⟨hblank, (Option.some.inj h).symm⟩
    · rw [(parse?_eq_none_iff (labelMark_ne_nil valid) text).mpr hrefused] at h
      cases h
    · rw [parse?_lineForm valid form] at h
      exact Or.inr ⟨form, rfl, Option.some.inj h⟩
  · rintro (⟨hblank, rfl⟩ | ⟨form, rfl, rfl⟩)
    · exact parse?_of_blank c.labelMark hblank
    · exact parse?_lineForm valid form

lemma parse_eq_ok_iff (location : Location) (text : Text) (st : Statement) :
    Statement.parse c location text = .ok st ↔ Statement.parse? c.labelMark text = some st := by
  unfold Statement.parse
  cases Statement.parse? c.labelMark text <;> simp

lemma parse_eq_error_iff (location : Location) (text : Text) (d : Diagnostic) :
    Statement.parse c location text = .error d ↔
      Statement.parse? c.labelMark text = none ∧ d = ⟨.emptyLabel, some location, some text⟩ := by
  unfold Statement.parse
  cases Statement.parse? c.labelMark text <;> simp [eq_comm]

end Reading

/-- The fields of a line are read by its grammar. A text of blanks is the blank line, a text whose
first field is the label mark is refused, and any other has one form and is read as what stands in
it. -/
theorem line_read_by_form (c : Config) (valid : c.Valid) (location : Location) (text : Text) :
    ReadByForm c location text := by
  refine ⟨?_, fun d => ?_, fun st => ?_, fun form form' h h' => ?_⟩
  · rw [parse_eq_ok_iff, parse?_eq_some_iff valid]
    constructor
    · rintro (⟨hblank, -⟩ | ⟨form, -, hform⟩)
      · exact hblank
      · exact absurd hform (statement_ne_blank form)
    · exact fun hblank => Or.inl ⟨hblank, rfl⟩
  · rw [parse_eq_error_iff, parse?_eq_none_iff (labelMark_ne_nil valid)]
  · rw [parse_eq_ok_iff, parse?_eq_some_iff valid]
  · exact lineForm_text_injective valid (h.trans h'.symm)

/-- A label and a mnemonic that end in the label mark, and an operand with blanks at its end. -/
theorem form_of_marked_line :
    let c : Config := {}
    let text := " a::\tb:  c ; ".toList
    c.Valid ∧ ReadByForm c ⟨['f'], 1⟩ text ∧ (∃ form : LineForm c.labelMark, form.text = text) ∧
      Statement.parse c ⟨['f'], 1⟩ text =
        .ok ⟨some "a:".toList, some "b:".toList, some "c ; ".toList⟩ := by
  have valid : ({} : Config).Valid := by decide
  have hread := line_read_by_form {} valid ⟨['f'], 1⟩ " a::\tb:  c ; ".toList
  let operand : Operand := ⟨"c ; ".toList, 'c', rfl, by decide⟩
  let form : LineForm ({} : Config).labelMark :=
    .labelled ⟨[' '], by decide⟩ ⟨"a:".toList, by decide⟩
      (.separated ⟨['\t'], by decide⟩
        ⟨⟨"b:".toList, by decide⟩, .separated ⟨[' ', ' '], by decide⟩ operand⟩)
  have htext : form.text = " a::\tb:  c ; ".toList := by decide
  exact ⟨valid, hread, ⟨form, htext⟩, (hread.read _).mpr (Or.inr ⟨form, htext, rfl⟩)⟩

end OnePass.Proofs
