import OnePass.Proofs.LineRoundTrip
import OnePass.Proofs.Renumbering
import OnePass.Proofs.SourceRun

/-!
# Comments and blank lines

Comments can be put behind the code of a line, comments can be rewritten, and lines without code can
be inserted anywhere. None of this is seen by a run: whatever is edited, and in which order, the
code of the lines stays and only the numbers of the lines move.
-/

namespace OnePass.Proofs

/-- A line without code: blanks, and perhaps a comment behind them. -/
inductive IsIdle (c : Config) : Text → Prop
  | blank {blanks : Text} (h : IsBlankText blanks) : IsIdle c blanks
  | comment {blanks : Text} (h : IsBlankText blanks) (text : Text) :
      IsIdle c (blanks ++ c.commentMark ++ text)

/-- The number that a line gets when a line is inserted behind the first `n` lines. -/
def makeRoom (n : Nat) (line : Int) : Int := if line ≤ n then line else line + 1

/-- An edit of some lines that keeps their code, and what it makes of the line numbers. -/
inductive Edit (c : Config) : List Text → List Text → (Int → Int) → Prop
  /-- Blanks and a comment go behind the code of a line, in place of the blanks and the line ending
  that may stand there. -/
  | comment (before after : List Text) {code tail blanks : Text} (closed : IsClosed c code)
      (tail_blank : IsBlankText tail) (blank : IsBlankText blanks) (text : Text) :
      Edit c (before ++ (code ++ tail) :: after)
        (before ++ (code ++ blanks ++ c.commentMark ++ text) :: after) id
  /-- All that follows the mark of a comment is replaced. -/
  | recomment (before after : List Text) {code : Text} (closed : IsClosed c code)
      (text text' : Text) :
      Edit c (before ++ (code ++ c.commentMark ++ text) :: after)
        (before ++ (code ++ c.commentMark ++ text') :: after) id
  | insert (before after : List Text) {line : Text} (idle : IsIdle c line) :
      Edit c (before ++ after) (before ++ line :: after) (makeRoom before.length)

/-- Any number of edits one after the other. -/
inductive Edits (c : Config) : List Text → List Text → (Int → Int) → Prop
  | none (lines : List Text) : Edits c lines lines id
  | more {lines edited lines' : List Text} {place next : Int → Int}
      (edits : Edits c lines edited place) (edit : Edit c edited lines' next) :
      Edits c lines lines' (next ∘ place)

/-- Two runs that come to the same, but for the numbers of the lines. -/
structure SameRun (place : Int → Int) (r r' : Assembly) : Prop where
  completes : r'.failure = none ↔ r.failure = none
  complete : r'.assembler.complete = r.assembler.complete
  /-- The cause and the line shown are the same, and the number of the line corresponds. -/
  fails : ∀ e, r.failure = some e →
    ∃ d, e = .diagnostic d ∧ r'.failure = some (.diagnostic (d.renumber place))
  session : ∃ s s', r.assembler.session = some s ∧ r'.assembler.session = some s' ∧
    s'.address = s.address ∧ s'.symbols.symbols = s.symbols.symbols.map (Symbol.renumber place)

section Code

variable {c : Config} {s : Text}

lemma strip_of_closed (h : IsClosed c s) : Line.strip c s = Text.trimRight s := by
  rw [Line.strip, code_of_no_comment h]

lemma strip_comment (valid : c.Valid) (h : IsClosed c s) (text : Text) :
    Line.strip c (s ++ c.commentMark ++ text) = Text.trimRight s := by
  rw [Line.strip, List.append_assoc, code_append h, code_comment valid, List.append_nil]

lemma strip_of_isIdle (valid : c.Valid) (h : IsIdle c s) : Line.strip c s = [] := by
  have htrim : ∀ blanks, IsBlankText blanks → Text.trimRight blanks = [] :=
    fun blanks hb => trimRight_append_blank (s := []) blanks hb
  cases h with
  | blank h => rw [strip_of_closed (isClosed_blank valid h), htrim _ h]
  | comment h text => rw [strip_comment valid (isClosed_blank valid h), htrim _ h]

theorem codeLines_edit (valid : c.Valid) {lines lines' : List Text} {place : Int → Int}
    (edit : Edit c lines lines' place) :
    codeLines c 0 lines' = (codeLines c 0 lines).map (Prod.map place id) := by
  cases edit with
  | @comment before after code tail blanks closed tail_blank blank text =>
    have hstrip : Line.strip c (code ++ blanks ++ c.commentMark ++ text) =
        Line.strip c (code ++ tail) := by
      rw [strip_comment valid (isClosed_append closed (isClosed_blank valid blank)),
        strip_of_closed (isClosed_append closed (isClosed_blank valid tail_blank)),
        trimRight_append_blank _ blank, trimRight_append_blank _ tail_blank]
    rw [codeLines_of_same_code hstrip, Prod.map_id, List.map_id]
  | @recomment before after code closed text text' =>
    have hstrip : Line.strip c (code ++ c.commentMark ++ text') =
        Line.strip c (code ++ c.commentMark ++ text) := by
      rw [strip_comment valid closed, strip_comment valid closed]
    rw [codeLines_of_same_code hstrip, Prod.map_id, List.map_id]
  | @insert before after line idle =>
    have hkept : ∀ entry ∈ codeLines c 0 before,
        Prod.map (makeRoom before.length) id entry = id entry := by
      rintro ⟨number, code⟩ hentry
      have hbounds := line_of_mem_codeLines c 0 hentry
      rw [Prod.map_apply, makeRoom, if_pos (by push_cast at hbounds; omega)]
      rfl
    have hbefore : (codeLines c 0 before).map (Prod.map (makeRoom before.length) id) =
        codeLines c 0 before := by
      rw [List.map_congr_left hkept, List.map_id]
    have hafter : (codeLines c before.length after).map (Prod.map (makeRoom before.length) id) =
        codeLines c (before.length + 1) after := by
      rw [codeLines_succ]
      apply List.map_congr_left
      rintro ⟨number, code⟩ hentry
      have hbounds := line_of_mem_codeLines c before.length hentry
      rw [Prod.map_apply, Prod.map_apply, makeRoom, if_neg (by omega)]
    rw [codeLines_append, codeLines_append, codeLines_cons_of_idle _ _ (strip_of_isIdle valid idle),
      List.map_append, Nat.zero_add, hbefore, hafter]

theorem codeLines_edits (valid : c.Valid) {lines lines' : List Text} {place : Int → Int}
    (edits : Edits c lines lines' place) :
    codeLines c 0 lines' = (codeLines c 0 lines).map (Prod.map place id) := by
  induction edits with
  | none => rw [Prod.map_id, List.map_id]
  | more edits edit ih =>
    rw [codeLines_edit valid edit, ih, List.map_map, Prod.map_comp_map, Function.id_comp]

end Code

lemma sameRun_of_passes {a : Assembler} {filename : Text} {lines lines' : List Text}
    {place : Int → Int}
    (hsession : Renumbered place (passOver a filename lines).session
      (passOver a filename lines').session)
    (hfailure : (passOver a filename lines').failure =
      (passOver a filename lines).failure.map (Diagnostic.renumber place)) :
    SameRun place (a.assembleLines lines filename) (a.assembleLines lines' filename) := by
  have haddress := congrArg AddressCounter.value hsession.counter
  cases hf : (passOver a filename lines).failure with
  | none =>
    rw [hf] at hfailure
    rw [Assembler.assembleLines, Assembler.assembleLines,
      assembleSource_of_completed ⟨lines, none⟩ hf rfl,
      assembleSource_of_completed ⟨lines', none⟩ hfailure rfl]
    exact ⟨Iff.rfl, rfl, by rintro e ⟨⟩, _, _, rfl, rfl, haddress, hsession.symbols⟩
  | some d =>
    rw [hf] at hfailure
    rw [Assembler.assembleLines, Assembler.assembleLines,
      assembleSource_of_stopped ⟨lines, none⟩ hf, assembleSource_of_stopped ⟨lines', none⟩ hfailure]
    refine ⟨by simp, rfl, ?_, _, _, rfl, rfl, haddress, hsession.symbols⟩
    rintro e ⟨⟩
    exact ⟨d, rfl, rfl⟩

/-- A run over edited lines does what the run over the lines does, as long as no line is too long.
What lies between the two may be of any length. -/
theorem edits_unseen (a : Assembler) (valid : a.config.Valid) (filename : Text)
    {lines lines' : List Text} {place : Int → Int} (edits : Edits a.config lines lines' place)
    (short : ∀ raw ∈ lines, raw.length < a.config.lineLimit)
    (short' : ∀ raw ∈ lines', raw.length < a.config.lineLimit) :
    SameRun place (a.assembleLines lines filename) (a.assembleLines lines' filename) := by
  have hnew : Renumbered place (a.newSession filename) (a.newSession filename) :=
    ⟨rfl, rfl, rfl, rfl, rfl⟩
  have hpass := pass_eq_codePass (a.newSession filename) a.mnemonics 0 lines short
  have hpass' := pass_eq_codePass (a.newSession filename) a.mnemonics 0 lines' short'
  have hcode := codePass_renumbered hnew a.mnemonics (codeLines a.config 0 lines)
  have hconfig : (a.newSession filename).config = a.config := rfl
  rw [hconfig] at hpass hpass'
  rw [codeLines_edits valid edits] at hpass'
  dsimp only at hcode
  rw [← hpass, ← hpass'] at hcode
  exact sameRun_of_passes hcode.1 hcode.2

/-- A comment behind a quoted comment mark is rewritten, a comment is put behind the second line and
a comment goes before both: the second declaration of the label is now on line 3. -/
theorem three_edits_unseen :
    let mark := ({} : Config).commentMark
    let lines : List Text := ["a: db ';'".toList ++ mark ++ "one\n".toList,
      "A: int".toList ++ "\r\n".toList]
    let lines' : List Text := [[' '] ++ mark ++ "head\n".toList,
      "a: db ';'".toList ++ mark ++ "it's".toList, "A: int".toList ++ ['\t'] ++ mark ++ ['\r']]
    let place := makeRoom 0 ∘ id ∘ id ∘ id
    ({} : Config).Valid ∧ Edits {} lines lines' place ∧
      (∀ raw ∈ lines, (raw.length : Int) < ({} : Config).lineLimit) ∧
      (∀ raw ∈ lines', (raw.length : Int) < ({} : Config).lineLimit) ∧ place 2 = 3 ∧
      SameRun place (({} : Assembler).assembleLines lines "p.asm")
        (({} : Assembler).assembleLines lines' "p.asm") := by
  intro mark lines lines' place
  have valid : ({} : Config).Valid := by decide +kernel
  have hfirst : IsClosed {} "a: db ';'".toList := by
    unfold IsClosed
    decide
  have hsecond : IsClosed {} "A: int".toList := by
    unfold IsClosed
    decide
  have hedits := Edits.none (c := ({} : Config)) lines
    |>.more (.recomment [] _ hfirst "one\n".toList "it's".toList)
    |>.more (.comment [_] [] hsecond (by decide) (show IsBlankText ['\t'] by decide) ['\r'])
    |>.more (.insert [] _ (.comment (show IsBlankText [' '] by decide) "head\n".toList))
  have short : ∀ raw ∈ lines, (raw.length : Int) < ({} : Config).lineLimit := by decide
  have short' : ∀ raw ∈ lines', (raw.length : Int) < ({} : Config).lineLimit := by decide
  exact ⟨valid, hedits, short, short', by decide,
    edits_unseen {} valid "p.asm" hedits short short'⟩

end OnePass.Proofs
