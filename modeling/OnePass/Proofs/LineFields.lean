import Mathlib.Data.List.TakeWhile
import OnePass.Line.Statement

/-!
# The fields of a line

The fields of a text are its maximal stretches without blanks, all of them at once. The label and
the mnemonic of a raw line are read off the fields of what is left of it without its comment. This
file shows that the statement of a line has just these.
-/

namespace OnePass.Proofs

/-- The fields of a text, in order. -/
def fields (s : Text) : List Text := (s.splitOnP Text.isBlank).filter (· ≠ [])

/-- The label in some fields: the first field without the mark at its end. -/
def labelIn (mark : Text) : List Text → Option Text
  | [] => none
  | first :: _ => if mark <:+ first then some (first.take (first.length - mark.length)) else none

/-- The mnemonic in some fields: the first one that is not a label. -/
def mnemonicIn (mark : Text) : List Text → Option Text
  | [] => none
  | first :: rest => if mark <:+ first then rest.head? else some first

/-- The fields of a raw line without its comment. -/
def lineFields (c : Config) (raw : Text) : List Text := fields (Line.strip c raw)

/-- The label that a raw line declares, as written but without the mark. -/
def labelOf (c : Config) (raw : Text) : Option Text := labelIn c.labelMark (lineFields c raw)

/-- The mnemonic on a raw line, as written. -/
def mnemonicOf (c : Config) (raw : Text) : Option Text := mnemonicIn c.labelMark (lineFields c raw)

lemma head_of_dropWhile {p : Char → Bool} {s t : Text} {c : Char} (h : s.dropWhile p = c :: t) :
    p c = false := by
  have hne : s.dropWhile p ≠ [] := by
    rw [h]
    exact List.cons_ne_nil c t
  have hp := List.head_dropWhile_not p hne
  simpa only [h, List.head_cons] using hp

@[simp] lemma fields_nil : fields [] = [] := by
  simp [fields]

lemma fields_cons_blank {b : Char} (hb : Text.isBlank b = true) (s : Text) :
    fields (b :: s) = fields s := by
  simp [fields, List.splitOnP_cons_eq_if_modifyHead, hb]

lemma fields_dropWhile_blank (s : Text) : fields (s.dropWhile Text.isBlank) = fields s := by
  induction s with
  | nil => rfl
  | cons c s ih =>
    by_cases hc : Text.isBlank c = true
    · rw [List.dropWhile_cons_of_pos hc, ih, fields_cons_blank hc]
    · rw [List.dropWhile_cons_of_neg hc]

lemma fields_cons_field {c : Char} (hc : Text.isBlank c = false) (s : Text) :
    fields (c :: s) = (c :: s.takeWhile fun d => !Text.isBlank d) ::
      fields (s.dropWhile fun d => !Text.isBlank d) := by
  have hw : ∀ d ∈ c :: s.takeWhile (fun d => !Text.isBlank d), Text.isBlank d = false := by
    intro d hd
    rcases List.mem_cons.mp hd with rfl | hd
    · exact hc
    · simpa using List.mem_takeWhile_imp hd
  have hs : c :: s = (c :: s.takeWhile fun d => !Text.isBlank d) ++
      s.dropWhile fun d => !Text.isBlank d := by
    rw [List.cons_append, List.takeWhile_append_dropWhile]
  cases hr : s.dropWhile fun d => !Text.isBlank d with
  | nil =>
    rw [hr, List.append_nil] at hs
    rw [fields_nil, hs, fields, List.splitOnP_eq_singleton hw]
    simp
  | cons b r =>
    have hb : Text.isBlank b = true := by simpa using head_of_dropWhile hr
    rw [hr] at hs
    rw [fields_cons_blank hb, hs, fields, List.splitOnP_append_cons_of_forall_mem hw b hb]
    simp [fields]

theorem nextField_eq_none_iff (s : Text) : Text.nextField s = none ↔ fields s = [] := by
  unfold Text.nextField
  rw [← fields_dropWhile_blank s]
  cases h : s.dropWhile Text.isBlank with
  | nil => simp
  | cons c t =>
    simp [fields_cons_field (head_of_dropWhile h)]

theorem fields_of_nextField {s first rest : Text} (h : Text.nextField s = some (first, rest)) :
    fields s = first :: fields rest := by
  unfold Text.nextField at h
  rw [← fields_dropWhile_blank s]
  cases hs : s.dropWhile Text.isBlank with
  | nil => simp [hs] at h
  | cons c t =>
    rw [hs] at h
    simp only [Option.some.injEq, Prod.mk.injEq] at h
    obtain ⟨rfl, rfl⟩ := h
    rw [fields_cons_field (head_of_dropWhile hs), fields_dropWhile_blank]

lemma labelName_of_ne_nil {mark : Text} (hm : mark ≠ []) (field : Text) :
    Statement.labelName mark field = field.take (field.length - mark.length) := by
  rw [Statement.labelName, if_neg hm]

lemma field?_eq_none_iff (s : Text) : Statement.field? s = none ↔ s = [] := by
  cases s <;> simp [Statement.field?]

lemma eq_of_field? {s t : Text} (h : Statement.field? s = some t) : t = s := by
  cases s with
  | nil => simp [Statement.field?] at h
  | cons c s => exact (Option.some.inj h).symm

lemma labelName_eq_nil_iff {mark field : Text} (hm : mark ≠ []) (hf : mark <:+ field) :
    Statement.labelName mark field = [] ↔ field = mark := by
  obtain ⟨name, rfl⟩ := hf
  rw [labelName_of_ne_nil hm]
  simp

/-- A text is refused just when its first field is the mark itself. -/
theorem parse?_eq_none_iff {mark : Text} (hm : mark ≠ []) (text : Text) :
    Statement.parse? mark text = none ↔ (fields text).head? = some mark := by
  unfold Statement.parse?
  cases hn : Text.nextField text with
  | none => simp [(nextField_eq_none_iff text).mp hn]
  | some next =>
    obtain ⟨first, rest⟩ := next
    rw [fields_of_nextField hn]
    by_cases hf : mark <:+ first
    · have hname := field?_eq_none_iff (Statement.labelName mark first)
      rw [labelName_eq_nil_iff hm hf] at hname
      cases hl : Statement.field? (Statement.labelName mark first) with
      | none =>
        obtain rfl := hname.mp hl
        simp [hl]
      | some name =>
        have hne : first ≠ mark := fun h => by simp [hname.mpr h] at hl
        cases hr : Text.nextField rest <;> simp [hf, hl, hr, hne]
    · have hne : first ≠ mark := fun h => hf (h ▸ List.suffix_refl _)
      simp [hf, hne]

/-- The statement of a text has the label and the mnemonic that stand in its fields, and no operand
without a mnemonic. -/
theorem fields_of_parse? {mark text : Text} {st : Statement}
    (h : Statement.parse? mark text = some st) :
    st.label = labelIn mark (fields text) ∧ st.mnemonic = mnemonicIn mark (fields text) ∧
      (st.mnemonic = none → st.operand = none) := by
  unfold Statement.parse? at h
  cases hn : Text.nextField text with
  | none =>
    rw [hn] at h
    obtain rfl := Option.some.inj h
    simp [(nextField_eq_none_iff text).mp hn, labelIn, mnemonicIn]
  | some next =>
    obtain ⟨first, rest⟩ := next
    rw [fields_of_nextField hn]
    rw [hn] at h
    by_cases hf : mark <:+ first
    · cases hl : Statement.field? (Statement.labelName mark first) with
      | none => simp [hf, hl] at h
      | some name =>
        have hm : mark ≠ [] := by
          rintro rfl
          simp [Statement.labelName, Statement.field?] at hl
        have hname := eq_of_field? hl
        rw [labelName_of_ne_nil hm] at hname
        cases hr : Text.nextField rest with
        | none =>
          simp only [hf, if_true, hl, hr, Option.some.injEq] at h
          subst h
          simp [labelIn, mnemonicIn, hf, hname, (nextField_eq_none_iff rest).mp hr]
        | some second =>
          simp only [hf, if_true, hl, hr, Option.some.injEq] at h
          subst h
          simp [labelIn, mnemonicIn, hf, hname, fields_of_nextField hr]
    · simp only [hf, if_false, Option.some.injEq] at h
      subst h
      simp [labelIn, mnemonicIn, hf]

end OnePass.Proofs
