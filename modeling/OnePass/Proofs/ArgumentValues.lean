import Mathlib.Data.List.Basic
import OnePass.CommandLine.Arguments

/-!
# Where values and operands come from

The value of an option is a part of some argument, and an operand is an argument. So neither holds a
null character unless an argument does. When no fault is found in the values, the paths among them
hold none whatever the arguments are.
-/

namespace OnePass.Proofs

open scoped List

lemma value_sublist_of_ofLetters {letters : List Char} {cluster : Cluster}
    (h : Cluster.ofLetters letters = .ok cluster) : ∀ g ∈ cluster.given, g.value <+ letters := by
  induction letters generalizing cluster with
  | nil =>
    rw [Cluster.ofLetters, Except.ok.injEq] at h
    subst h
    simp
  | cons c rest ih =>
    rw [Cluster.ofLetters] at h
    cases hs : Switch.ofLetter? c with
    | none => simp [hs] at h
    | some switch =>
      simp only [hs] at h
      split_ifs at h with htakes hrest
      · rw [Except.ok.injEq] at h
        subst h
        simp
      · rw [Except.ok.injEq] at h
        subst h
        intro g hg
        rw [List.mem_singleton.mp hg]
        exact List.sublist_cons_self c rest
      · cases hmore : Cluster.ofLetters rest with
        | error e => simp [hmore] at h
        | ok more =>
          simp only [hmore, Except.ok.injEq] at h
          subst h
          intro g hg
          obtain rfl | hg := List.mem_cons.mp hg
          · exact List.nil_sublist _
          · exact (ih hmore g hg).trans (List.sublist_cons_self c rest)

lemma value_of_ofLongName {switch : Switch} {name : Text} {value : Option Text} {cluster : Cluster}
    (h : Cluster.ofLongName switch name value = .ok cluster) :
    ∀ g ∈ cluster.given, g.value = value.getD [] := by
  cases value with
  | some value =>
    rw [Cluster.ofLongName] at h
    split_ifs at h
    rw [Except.ok.injEq] at h
    subst h
    simp
  | none =>
    rw [Cluster.ofLongName] at h
    split_ifs at h
    · rw [Except.ok.injEq] at h
      subst h
      simp
    · rw [Except.ok.injEq] at h
      subst h
      simp

lemma value_sublist_of_ofArgument {argument : Text} {cluster : Cluster}
    (h : Cluster.ofArgument argument = .ok cluster) : ∀ g ∈ cluster.given, g.value <+ argument := by
  intro g hg
  unfold Cluster.ofArgument at h
  dsimp only at h
  split at h
  · rw [value_of_ofLongName h g hg]
    split_ifs
    · exact List.drop_sublist _ _
    · exact List.nil_sublist _
  · split_ifs at h
    exact (value_sublist_of_ofLetters h g hg).trans (List.drop_sublist 1 argument)

lemma exists_of_map_eq_ok {ε α β : Type} {f : α → β} {x : Except ε α} {b : β}
    (h : x.map f = .ok b) : ∃ a, x = .ok a ∧ f a = b := by
  cases x with
  | error e => cases h
  | ok a => exact ⟨a, rfl, Except.ok.inj h⟩

/-- No text among some holds the null character. -/
def NoNull (texts : List Text) : Prop := ∀ text ∈ texts, '\x00' ∉ text

instance (texts : List Text) : Decidable (NoNull texts) := List.decidableBAll _ texts

theorem noNull_of_parse {arguments : List Text} {a : Arguments} (hnull : NoNull arguments)
    (h : Arguments.parse arguments = .ok a) :
    (∀ g ∈ a.given, '\x00' ∉ g.value) ∧ NoNull a.operands := by
  have hgiven : ∀ {argument : Text} {cluster : Cluster}, '\x00' ∉ argument →
      Cluster.ofArgument argument = .ok cluster → ∀ g ∈ cluster.given, '\x00' ∉ g.value :=
    fun hargument hcluster g hg hmem =>
      hargument ((value_sublist_of_ofArgument hcluster g hg).subset hmem)
  induction arguments using Arguments.parse.induct generalizing a with
  | case1 =>
    rw [Arguments.parse, Except.ok.injEq] at h
    subst h
    exact ⟨by simp, by simp [NoNull]⟩
  | case2 rest =>
    unfold Arguments.parse at h
    rw [if_pos rfl, Except.ok.injEq] at h
    subst h
    exact ⟨by simp, (List.forall_mem_cons.mp hnull).2⟩
  | case3 argument rest hdashes hoption e hcluster =>
    unfold Arguments.parse at h
    rw [if_neg hdashes, if_pos hoption, hcluster] at h
    cases h
  | case4 argument hdashes hoption given rest hcluster ih =>
    obtain ⟨hargument, hrest⟩ := List.forall_mem_cons.mp hnull
    unfold Arguments.parse at h
    rw [if_neg hdashes, if_pos hoption, hcluster] at h
    obtain ⟨later, hp, rfl⟩ := exists_of_map_eq_ok h
    obtain ⟨hlater, hoperands⟩ := ih hrest hp
    exact ⟨List.forall_mem_append.mpr ⟨hgiven hargument hcluster, hlater⟩, hoperands⟩
  | case5 argument hdashes hoption given switch name hcluster =>
    unfold Arguments.parse at h
    rw [if_neg hdashes, if_pos hoption, hcluster] at h
    cases h
  | case6 argument hdashes hoption given switch name value rest hcluster ih =>
    obtain ⟨hargument, hrest⟩ := List.forall_mem_cons.mp hnull
    obtain ⟨hvalue, hrest⟩ := List.forall_mem_cons.mp hrest
    unfold Arguments.parse at h
    rw [if_neg hdashes, if_pos hoption, hcluster] at h
    obtain ⟨later, hp, rfl⟩ := exists_of_map_eq_ok h
    obtain ⟨hlater, hoperands⟩ := ih hrest hp
    have hhere : ∀ g ∈ given ++ [⟨switch, value⟩], '\x00' ∉ g.value :=
      List.forall_mem_append.mpr ⟨hgiven hargument hcluster, List.forall_mem_singleton.mpr hvalue⟩
    exact ⟨List.forall_mem_append.mpr ⟨hhere, hlater⟩, hoperands⟩
  | case7 argument rest hdashes hoption ih =>
    obtain ⟨hargument, hrest⟩ := List.forall_mem_cons.mp hnull
    unfold Arguments.parse at h
    rw [if_neg hdashes, if_neg hoption] at h
    obtain ⟨later, hp, rfl⟩ := exists_of_map_eq_ok h
    obtain ⟨hlater, hoperands⟩ := ih hrest hp
    exact ⟨hlater, List.forall_mem_cons.mpr ⟨hargument, hoperands⟩⟩

lemma mem_given_of_value? {a : Arguments} {switch : Switch} {value : Text}
    (h : a.value? switch = some value) : ∃ g ∈ a.given, g.switch = switch ∧ g.value = value := by
  unfold Arguments.value? at h
  obtain ⟨g, hfound, hvalue⟩ := Option.map_eq_some_iff.mp h
  have hmem := List.mem_reverse.mp (List.mem_of_find?_eq_some hfound)
  have hswitch := List.find?_some hfound
  exact ⟨g, hmem, of_decide_eq_true hswitch, hvalue⟩

theorem null_not_mem_symbols {a : Arguments} {files : FileTree} {target : Text}
    (h : a.valueError? files = none) (htarget : a.value? .symbols = some target) :
    '\x00' ∉ target := by
  obtain ⟨g, hg, hswitch, -⟩ := mem_given_of_value? htarget
  unfold Arguments.valueError? at h
  have hnone := (Option.or_eq_none_iff.mp h).1
  have hfault := List.findSome?_eq_none_iff.mp hnone g hg
  rw [hswitch, htarget] at hfault
  intro hmem
  simp [Switch.valueError?, hmem] at hfault

lemma operandError?_eq_none {a : Arguments} (h : NoNull a.operands) : a.operandError? = none := by
  unfold Arguments.operandError?
  apply if_neg
  rw [List.any_eq_true]
  rintro ⟨path, hpath, hnull⟩
  exact h path hpath (of_decide_eq_true hnull)

lemma switch_valueError?_ne_nullInPath (switch : Switch) {value : Text} (files : FileTree)
    (hvalue : '\x00' ∉ value) : switch.valueError? files value ≠ some .nullInPath := by
  intro h
  cases switch with
  | symbols =>
    rw [Switch.valueError?, if_neg hvalue] at h
    split_ifs at h
    cases h
  | maxLineLength =>
    rw [Switch.valueError?] at h
    split at h
    · cases h
    · split_ifs at h
      cases h
  | verbose => cases h
  | version => cases h
  | help => cases h

/-- Only a null character among the arguments is reported as one in a path. -/
theorem valueError?_ne_nullInPath {arguments : List Text} {a : Arguments} (files : FileTree)
    (hnull : NoNull arguments) (h : Arguments.parse arguments = .ok a) :
    a.valueError? files ≠ some .nullInPath := by
  obtain ⟨hgiven, hoperands⟩ := noNull_of_parse hnull h
  intro hfault
  unfold Arguments.valueError? at hfault
  rw [operandError?_eq_none hoperands, Option.or_none] at hfault
  obtain ⟨g, -, hg⟩ := List.exists_of_findSome?_eq_some hfault
  have hvalue : '\x00' ∉ (a.value? g.switch).getD [] := by
    cases hv : a.value? g.switch with
    | none => simp
    | some value =>
      obtain ⟨g', hg', -, rfl⟩ := mem_given_of_value? hv
      exact hgiven g' hg'
  exact switch_valueError?_ne_nullInPath g.switch files hvalue hg

end OnePass.Proofs
