import OnePass.Proofs.CodeRun
import OnePass.Proofs.LineCutting
import OnePass.Proofs.ScanSplit
import OnePass.Proofs.SourceRun

/-!
# Line endings

A source can end its lines with a line feed, a carriage return or the pair of them, and leave out
the last ending. Whichever it does, its lines have the same numbers and the same code, for the
ending is cut off with the blanks before it, even where it stands in an open span. So all runs over
such sources are the same.
-/

namespace OnePass.Proofs

inductive LineEnding where
  | lineFeed
  | carriageReturn
  | pair
deriving DecidableEq, Repr

def LineEnding.text : LineEnding → Text
  | .lineFeed => ['\n']
  | .carriageReturn => ['\r']
  | .pair => ['\r', '\n']

/-- What a line can hold in front of its ending. -/
def IsLineBody (s : Text) : Prop := ∀ c ∈ s, ¬IsLineEnd c

instance (s : Text) : Decidable (IsLineBody s) := List.decidableBAll _ s

/-- The source of some lines that all end alike, or all but the last if that one is not ended. -/
def LineEnding.source (e : LineEnding) (lastEnded : Bool) : List Text → Text
  | [] => []
  | [body] => if lastEnded then body ++ e.text else body
  | body :: next :: rest => body ++ e.text ++ e.source lastEnded (next :: rest)

namespace LineEnding

variable (e : LineEnding)

lemma isBlank_text : ∀ c ∈ e.text, Text.isBlank c = true := by
  cases e with
  | lineFeed => exact List.forall_mem_singleton.mpr (by decide)
  | carriageReturn => exact List.forall_mem_singleton.mpr (by decide)
  | pair => exact List.forall_mem_cons.mpr ⟨by decide, List.forall_mem_singleton.mpr (by decide)⟩

lemma mem_source {lastEnded : Bool} {bodies : List Text} (h : ∀ body ∈ bodies, IsLineBody body) :
    ∀ c ∈ e.source lastEnded bodies, c ∈ e.text ∨ ¬IsLineEnd c := by
  induction bodies with
  | nil => simp [source]
  | cons body rest ih =>
    obtain ⟨hbody, hrest⟩ := List.forall_mem_cons.mp h
    have hplain : ∀ c ∈ body, c ∈ e.text ∨ ¬IsLineEnd c := fun c hc => Or.inr (hbody c hc)
    have htext : ∀ c ∈ e.text, c ∈ e.text ∨ ¬IsLineEnd c := fun c hc => Or.inl hc
    cases rest with
    | nil =>
      rw [source]
      split_ifs
      · exact List.forall_mem_append.mpr ⟨hplain, htext⟩
      · exact hplain
    | cons next rest =>
      rw [source]
      exact List.forall_mem_append.mpr
        ⟨List.forall_mem_append.mpr ⟨hplain, htext⟩, ih hrest⟩

lemma isLineBoundary_source (body : Text) {lastEnded : Bool} {bodies : List Text}
    (h : ∀ body ∈ bodies, IsLineBody body) :
    IsLineBoundary (body ++ e.text) (e.source lastEnded bodies) := by
  cases e with
  | lineFeed => exact Or.inr (Or.inl List.getLast?_concat)
  | pair =>
    refine Or.inr (Or.inl ?_)
    rw [List.getLast?_append]
    rfl
  | carriageReturn =>
    refine Or.inr (Or.inr ⟨List.getLast?_concat, fun hhead => ?_⟩)
    obtain ⟨s, hs⟩ := List.head?_eq_some_iff.mp hhead
    have hmem : '\n' ∈ LineEnding.carriageReturn.source lastEnded bodies := by
      rw [hs]
      exact List.mem_cons_self
    obtain htext | hplain := mem_source .carriageReturn h '\n' hmem
    · exact absurd htext (by decide)
    · exact hplain (Or.inl rfl)

lemma sourceLines_ended {body : Text} (h : IsLineBody body) :
    Text.sourceLines (body ++ e.text) = [body ++ e.text] := by
  cases e with
  | lineFeed => exact sourceLines_append_plain h rfl
  | carriageReturn => exact sourceLines_append_plain h rfl
  | pair => exact sourceLines_append_plain h (sourceLines_pair [])

end LineEnding

/-- The code of a source does not tell how its lines are ended. -/
theorem codeLines_source {c : Config} (valid : c.Valid) (e : LineEnding) (lastEnded : Bool)
    (n : Nat) {bodies : List Text} (h : ∀ body ∈ bodies, IsLineBody body) :
    codeLines c n (Text.sourceLines (e.source lastEnded bodies)) = codeLines c n bodies := by
  have hstrip : ∀ body, Line.strip c (body ++ e.text) = Line.strip c body :=
    fun body => strip_append_blank valid body e.isBlank_text
  have hended : ∀ body rest n,
      codeLines c n ((body ++ e.text) :: rest) = codeLines c n (body :: rest) := by
    intro body rest n
    rw [codeLines, codeLines, hstrip]
  induction bodies generalizing n with
  | nil => rfl
  | cons body rest ih =>
    obtain ⟨hbody, hrest⟩ := List.forall_mem_cons.mp h
    cases rest with
    | nil =>
      rw [LineEnding.source]
      split_ifs
      · rw [e.sourceLines_ended hbody, hended]
      · by_cases hne : body = []
        · rw [hne]
          exact (codeLines_cons_of_idle c n rfl []).symm
        · rw [sourceLines_of_plain hbody hne]
    | cons next rest =>
      rw [LineEnding.source, sourceLines_append_of_boundary (e.isLineBoundary_source body hrest),
        e.sourceLines_ended hbody, List.singleton_append, hended, codeLines, codeLines, ih _ hrest]

/-- Runs over lines below the limit that have the same code are the same. -/
lemma assembleLines_of_same_code {a : Assembler} (filename : Text) {lines lines' : List Text}
    (short : ∀ raw ∈ lines, raw.length < a.config.lineLimit)
    (short' : ∀ raw ∈ lines', raw.length < a.config.lineLimit)
    (h : codeLines a.config 0 lines' = codeLines a.config 0 lines) :
    (a.assembleLines lines' filename).failure = (a.assembleLines lines filename).failure ∧
      (a.assembleLines lines' filename).assembler = (a.assembleLines lines filename).assembler := by
  have hpass := pass_eq_codePass (a.newSession filename) a.mnemonics 0 lines short
  have hpass' := pass_eq_codePass (a.newSession filename) a.mnemonics 0 lines' short'
  have hconfig : (a.newSession filename).config = a.config := rfl
  rw [hconfig] at hpass hpass'
  rw [h, ← hpass] at hpass'
  obtain ⟨hsession, hfailure⟩ := Prod.mk.inj hpass'
  have hsession' : (passOver a filename lines').session = (passOver a filename lines).session :=
    hsession
  rw [Assembler.assembleLines, Assembler.assembleLines]
  cases hf : (passOver a filename lines).failure with
  | none =>
    have hf' : (passOver a filename lines').failure = none := hfailure.trans hf
    rw [assembleSource_of_completed ⟨lines, none⟩ hf rfl,
      assembleSource_of_completed ⟨lines', none⟩ hf' rfl, hsession']
    exact ⟨rfl, rfl⟩
  | some d =>
    have hf' : (passOver a filename lines').failure = some d := hfailure.trans hf
    rw [assembleSource_of_stopped ⟨lines, none⟩ hf, assembleSource_of_stopped ⟨lines', none⟩ hf',
      hsession']
    exact ⟨rfl, rfl⟩

/-- The style of line endings is irrelevant. Two sources of the same lines, ended in any two ways,
fare alike as long as none of their raw lines is too long, endings counted: both fail with the same
diagnostic or none does, and they leave the same results. -/
theorem line_endings_unseen (a : Assembler) (valid : a.config.Valid) (filename : Text)
    {bodies : List Text} (plain : ∀ body ∈ bodies, IsLineBody body) (e e' : LineEnding)
    (lastEnded lastEnded' : Bool)
    (short : ∀ raw ∈ Text.sourceLines (e.source lastEnded bodies), raw.length < a.config.lineLimit)
    (short' : ∀ raw ∈ Text.sourceLines (e'.source lastEnded' bodies),
      raw.length < a.config.lineLimit) :
    let r := a.assembleText (e.source lastEnded bodies) filename
    let r' := a.assembleText (e'.source lastEnded' bodies) filename
    r'.failure = r.failure ∧ r'.assembler = r.assembler := by
  have hcode := codeLines_source valid e lastEnded 0 plain
  have hcode' := codeLines_source valid e' lastEnded' 0 plain
  exact assembleLines_of_same_code filename short short' (hcode'.trans hcode.symm)

/-- A blank line, and under it a line with an escape mark at the end of an open span: the mark
protects a part of the ending. The last line repeats a label. -/
theorem open_span_ended_two_ways :
    let a : Assembler := {}
    let bodies : List Text := ["a: db 1".toList, [], "b: db 'x\\".toList, "A:".toList]
    let source := LineEnding.pair.source false bodies
    let source' := LineEnding.carriageReturn.source true bodies
    a.config.Valid ∧ (∀ body ∈ bodies, IsLineBody body) ∧
      (∀ raw ∈ Text.sourceLines source, (raw.length : Int) < a.config.lineLimit) ∧
      (∀ raw ∈ Text.sourceLines source', (raw.length : Int) < a.config.lineLimit) ∧
      (a.assembleText source "p.asm").failure = some (.diagnostic
        ⟨.duplicateLabel ['A'] (some ⟨"p.asm", 1⟩), some ⟨"p.asm", 4⟩, none⟩) ∧
      (a.assembleText source' "p.asm").failure = (a.assembleText source "p.asm").failure ∧
      (a.assembleText source' "p.asm").assembler = (a.assembleText source "p.asm").assembler := by
  intro a bodies source source'
  have valid : a.config.Valid := by decide +kernel
  have plain : ∀ body ∈ bodies, IsLineBody body := by decide +kernel
  have short : ∀ raw ∈ Text.sourceLines source, (raw.length : Int) < a.config.lineLimit := by
    decide +kernel
  have short' : ∀ raw ∈ Text.sourceLines source', (raw.length : Int) < a.config.lineLimit := by
    decide +kernel
  exact ⟨valid, plain, short, short', by decide +kernel,
    line_endings_unseen a valid "p.asm" plain .pair .carriageReturn false true short short'⟩

end OnePass.Proofs
