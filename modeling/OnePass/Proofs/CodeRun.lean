import OnePass.Proofs.LineStep
import OnePass.Proofs.PassSplit

/-!
# What a run sees of its lines

Of lines below the limit a run sees the code and the numbers, and a line without code it does not
see at all. A pass over such lines is therefore a pass over the code that they have, and two runs
that see the same code do the same.
-/

namespace OnePass.Proofs

/-- The lines that have code, without their comments and with their numbers. The first line is the
one after line `n`. -/
def codeLines (c : Config) (n : Nat) : List Text → List (Int × Text)
  | [] => []
  | raw :: rest =>
    if Line.strip c raw = [] then codeLines c (n + 1) rest
    else ((n : Int) + 1, Line.strip c raw) :: codeLines c (n + 1) rest

/-- Finds the fields of a line without comment and resolves them. -/
def handleCode (s : Session) (hints : MnemonicTable) (line : Int) (text : Text) : Outcome :=
  match Statement.parse? s.config.labelMark text with
  | none => { session := s, failure := some ⟨.emptyLabel, some (s.locate line), some text⟩ }
  | some st => s.resolve hints st line (some text)

/-- Handles code line by line: the session after the last line or the first failure. -/
def codePass (s : Session) (hints : MnemonicTable) :
    List (Int × Text) → Session × Option Diagnostic
  | [] => (s, none)
  | (line, text) :: rest =>
    match (handleCode s hints line text).failure with
    | some d => ((handleCode s hints line text).session, some d)
    | none => codePass (handleCode s hints line text).session hints rest

section Lines

variable (c : Config) (n : Nat)

lemma codeLines_append (before after : List Text) :
    codeLines c n (before ++ after) =
      codeLines c n before ++ codeLines c (n + before.length) after := by
  induction before generalizing n with
  | nil => rfl
  | cons raw before ih =>
    have hn : n + (raw :: before).length = n + 1 + before.length := by
      rw [List.length_cons]
      omega
    rw [List.cons_append, codeLines, codeLines, ih, hn]
    split_ifs with h
    · rfl
    · rfl

variable {c n} in
lemma codeLines_of_same_code {raw raw' : Text} (h : Line.strip c raw' = Line.strip c raw)
    {before after : List Text} :
    codeLines c n (before ++ raw' :: after) = codeLines c n (before ++ raw :: after) := by
  rw [codeLines_append, codeLines_append, codeLines, codeLines, h]

lemma codeLines_cons_of_idle {raw : Text} (h : Line.strip c raw = []) (rest : List Text) :
    codeLines c n (raw :: rest) = codeLines c (n + 1) rest := by
  rw [codeLines, if_pos h]

lemma codeLines_succ (lines : List Text) :
    codeLines c (n + 1) lines = (codeLines c n lines).map (Prod.map (· + 1) id) := by
  induction lines generalizing n with
  | nil => rfl
  | cons raw lines ih =>
    rw [codeLines, codeLines, ih (n + 1)]
    split_ifs with h
    · rfl
    · rw [List.map_cons, Prod.map_apply, id_eq]
      push_cast
      rfl

lemma line_of_mem_codeLines {lines : List Text} {entry : Int × Text}
    (h : entry ∈ codeLines c n lines) : (n : Int) < entry.1 ∧ entry.1 ≤ n + lines.length := by
  induction lines generalizing n with
  | nil => cases h
  | cons raw lines ih =>
    rw [codeLines] at h
    rw [List.length_cons]
    have hlater : entry ∈ codeLines c (n + 1) lines →
        (n : Int) < entry.1 ∧ entry.1 ≤ n + (lines.length + 1 : Nat) := by
      intro hmem
      have hbounds := ih (n + 1) hmem
      push_cast at hbounds ⊢
      omega
    split_ifs at h with hcode
    · exact hlater h
    · obtain rfl | hmem := List.mem_cons.mp h
      · push_cast
        omega
      · exact hlater hmem

end Lines

section Passes

variable (s : Session) (hints : MnemonicTable)

lemma handleCode_nil (line : Int) : handleCode s hints line [] = { session := s } := by
  have hparse : Statement.parse? s.config.labelMark [] = some {} := rfl
  rw [handleCode, hparse]
  exact resolve_of_isBlank rfl s hints line _

lemma config_handleCode (line : Int) (text : Text) :
    (handleCode s hints line text).session.config = s.config := by
  unfold handleCode
  cases Statement.parse? s.config.labelMark text with
  | none => rfl
  | some st => exact (settings_of_resolution (resolve_cases s hints st line (some text))).1

lemma assembleLine_of_short {raw : Text} (short : raw.length < s.config.lineLimit) (line : Int) :
    (s.assembleLine hints line raw).session =
        (handleCode s hints line (Line.strip s.config raw)).session ∧
      (s.assembleLine hints line raw).failure =
        (handleCode s hints line (Line.strip s.config raw)).failure := by
  unfold Session.assembleLine Line.normalize
  rw [if_neg (Int.not_le.mpr short)]
  dsimp only
  unfold Statement.parse handleCode
  cases hp : Statement.parse? s.config.labelMark (Line.strip s.config raw) with
  | none => exact ⟨rfl, rfl⟩
  | some st =>
    dsimp only
    by_cases hb : st.isBlank = true
    · rw [if_pos hb, resolve_of_isBlank hb]
      exact ⟨rfl, rfl⟩
    · rw [if_neg hb]
      exact ⟨rfl, rfl⟩

theorem pass_eq_codePass (n : Nat) (lines : List Text)
    (short : ∀ raw ∈ lines, raw.length < s.config.lineLimit) :
    ((s.pass hints n lines).session, (s.pass hints n lines).failure) =
      codePass s hints (codeLines s.config n lines) := by
  induction lines generalizing s n with
  | nil => rfl
  | cons raw rest ih =>
    obtain ⟨hraw, hrest⟩ := List.forall_mem_cons.mp short
    obtain ⟨hsession, hfailure⟩ := assembleLine_of_short s hints hraw (n + 1)
    rw [pass_cons, hsession, hfailure]
    by_cases hcode : Line.strip s.config raw = []
    · rw [codeLines_cons_of_idle _ _ hcode, hcode, handleCode_nil]
      exact ih s (n + 1) hrest
    · have hconfig := config_handleCode s hints (n + 1) (Line.strip s.config raw)
      rw [codeLines, if_neg hcode, codePass]
      cases hf : (handleCode s hints (n + 1) (Line.strip s.config raw)).failure with
      | some d => rfl
      | none =>
        have hlater := ih (handleCode s hints (n + 1) (Line.strip s.config raw)).session (n + 1)
          (by rwa [hconfig])
        rwa [hconfig] at hlater

end Passes

end OnePass.Proofs
