import Mathlib.Data.List.Infix
import OnePass.Proofs.DeclarationHistory

/-!
# Walks over a growing table

Labels can be declared while walks over the table are under way, each of them with a position and an
end of its own. Where a walk stands can be told from the replies that it has got: it yields the
symbols of the table from the first one on, and ends when it has yielded as many as there are at
that moment. Neither other walks nor declarations that are refused have any influence on it.
-/

namespace OnePass.Proofs

/-- A table and the walks over it, in the order in which they were started. -/
structure Walks where
  table : SymbolTable
  cursors : List Cursor := []

namespace Walks

/-- What can be done with a table and the walks over it. -/
inductive Act where
  | insert (d : Declaration)
  | start
  /-- A step of the walk that was started after `i` others. -/
  | next (i : Nat)
deriving DecidableEq

inductive Reply where
  | inserted (s : Symbol)
  | refused (d : Diagnostic)
  | started
  | yielded (s : Symbol)
  | ended
  /-- There is no such walk. -/
  | noWalk
deriving DecidableEq

def step (w : Walks) : Act → Reply × Walks
  | .insert d =>
    match w.table.insert d with
    | .ok t => (.inserted d.symbol, { w with table := t })
    | .error e => (.refused e, w)
  | .start => (.started, { w with cursors := w.cursors ++ [{}] })
  | .next i =>
    match w.cursors[i]? with
    | none => (.noWalk, w)
    | some c =>
      ((c.next w.table).1.elim .ended .yielded,
        { w with cursors := w.cursors.set i (c.next w.table).2 })

def run (w : Walks) : List Act → Walks
  | [] => w
  | act :: acts => run (w.step act).2 acts

/-- The replies to the steps of one walk. -/
def replies (w : Walks) (i : Nat) : List Act → List Reply
  | [] => []
  | act :: acts =>
    if act = .next i then (w.step act).1 :: replies (w.step act).2 i acts
    else replies (w.step act).2 i acts

/-- The symbol in a reply. -/
def Reply.symbol? : Reply → Option Symbol
  | .yielded s => some s
  | _ => none

end Walks

open Walks

section History

variable (t : SymbolTable) (acts : List Act) (i : Nat)

/-- The table and the walks after some acts, the first of them on a table without walks. -/
def afterActs : Walks := Walks.run { table := t } acts

/-- The reply to one more act. -/
def replyTo (act : Act) : Reply := ((afterActs t acts).step act).1

/-- The symbols that a walk has yielded. -/
def yielded : List Symbol := (Walks.replies { table := t } i acts).filterMap Reply.symbol?

/-- A walk has come to its end. -/
def HasEnded : Prop := .ended ∈ Walks.replies { table := t } i acts

/-- The declarations among some acts. -/
def insertions : List Declaration :=
  acts.filterMap fun act => match act with
    | .insert d => some d
    | _ => none

/-- The acts without other walks than one, which is then the only walk there is. Of the others, `n`
have been started before. -/
def alone (n : Nat) : List Act → List Act
  | [] => []
  | .insert d :: acts => .insert d :: alone n acts
  | .start :: acts => if n = i then .start :: alone (n + 1) acts else alone (n + 1) acts
  | .next j :: acts => if j = i then .next 0 :: alone n acts else alone n acts

end History

/-- What holds of a walk after some acts. -/
structure FollowsTable (t : SymbolTable) (acts : List Act) (i : Nat) : Prop where
  /-- The symbols yielded are the first ones of the table, in its order. -/
  yields : yielded t acts i <+: (afterActs t acts).table.symbols
  grows : ∀ more, (afterActs t acts).table.symbols <+: (afterActs t (acts ++ more)).table.symbols
  ends : replyTo t acts (.next i) = .ended ↔
    HasEnded t acts i ∨ (yielded t acts i).length = (afterActs t acts).table.size
  goesOn : ∀ s, replyTo t acts (.next i) = .yielded s ↔
    ¬HasEnded t acts i ∧ (afterActs t acts).table.symbols[(yielded t acts i).length]? = some s
  staysEnded : HasEnded t acts i → ∀ more, yielded t (acts ++ more) i = yielded t acts i
  /-- Walks leave the table alone. -/
  table : (afterActs t acts).table = afterDeclarations t (insertions acts)
  /-- Walks leave one another alone. -/
  alone : Walks.replies { table := t } i acts = Walks.replies { table := t } 0 (alone i 0 acts)

section Runs

variable (w : Walks) (i : Nat) (acts more : List Act)

lemma run_append : w.run (acts ++ more) = (w.run acts).run more := by
  induction acts generalizing w with
  | nil => rfl
  | cons act acts ih => exact ih (w.step act).2

lemma replies_append :
    w.replies i (acts ++ more) = w.replies i acts ++ (w.run acts).replies i more := by
  induction acts generalizing w with
  | nil => rfl
  | cons act acts ih =>
    have hrest := ih (w.step act).2
    rw [List.cons_append, Walks.replies, Walks.replies, Walks.run, hrest]
    split_ifs with h
    · rfl
    · rfl

lemma table_step (act : Act) :
    (w.step act).2.table = afterDeclarations w.table (insertions [act]) := by
  cases act with
  | insert d =>
    change _ = afterDeclaration w.table d
    rw [Walks.step, afterDeclaration]
    cases w.table.insert d with
    | ok t => rfl
    | error e => rfl
  | start => rfl
  | next i =>
    rw [Walks.step]
    cases w.cursors[i]? with
    | none => rfl
    | some c => rfl

lemma length_cursors_step (act : Act) :
    (w.step act).2.cursors.length = w.cursors.length + [act].count .start := by
  cases act with
  | insert d =>
    rw [Walks.step]
    cases w.table.insert d with
    | ok t => rfl
    | error e => rfl
  | start => exact List.length_append
  | next i =>
    rw [Walks.step]
    cases w.cursors[i]? with
    | none => rfl
    | some c => exact List.length_set

lemma table_run : (w.run acts).table = afterDeclarations w.table (insertions acts) := by
  induction acts generalizing w with
  | nil => rfl
  | cons act acts ih =>
    have hsplit : insertions (act :: acts) = insertions [act] ++ insertions acts :=
      List.filterMap_append (l := [act])
    rw [Walks.run, ih, table_step, hsplit, afterDeclarations, afterDeclarations, afterDeclarations,
      List.foldl_append]

lemma length_cursors_run : (w.run acts).cursors.length = w.cursors.length + acts.count .start := by
  induction acts generalizing w with
  | nil => rfl
  | cons act acts ih =>
    have hsplit : ([act] ++ acts).count Act.start = [act].count .start + acts.count .start :=
      List.count_append
    rw [Walks.run, ih, length_cursors_step, Nat.add_assoc, ← hsplit]
    rfl

lemma symbols_prefix_afterDeclarations (t : SymbolTable) (history : List Declaration) :
    t.symbols <+: (afterDeclarations t history).symbols := by
  rw [symbols_afterDeclarations]
  exact List.prefix_append _ _

end Runs

section Positions

/-- Where a walk stands after some replies; nowhere once it has ended. -/
def positionAfter (past : List Reply) : Option Nat :=
  if .ended ∈ past then none else some (past.filterMap Reply.symbol?).length

/-- Table and walks fit the replies that the walks have got in the past. -/
structure Fits (w : Walks) (past : Nat → List Reply) : Prop where
  position : ∀ i c, w.cursors[i]? = some c → c.position = positionAfter (past i)
  yields : ∀ i, (past i).filterMap Reply.symbol? <+: w.table.symbols
  idle : ∀ i, w.cursors[i]? = none → ∀ reply ∈ past i, reply = .noWalk

/-- The replies of the past, and the one to an act if it is a step of the walk. -/
def pastWith (past : Nat → List Reply) (act : Act) (reply : Reply) (i : Nat) : List Reply :=
  past i ++ if act = .next i then [reply] else []

variable {w : Walks} {past : Nat → List Reply}

lemma prefix_snoc {α : Type} {l l' : List α} {x : α} (h : l <+: l') (hx : l'[l.length]? = some x) :
    l ++ [x] <+: l' := by
  obtain ⟨hlt, rfl⟩ := List.getElem?_eq_some_iff.mp hx
  exact List.concat_get_prefix h hlt

lemma positionAfter_idle {rs : List Reply} (h : ∀ reply ∈ rs, reply = .noWalk) :
    positionAfter rs = some 0 := by
  have hended : Reply.ended ∉ rs := fun hmem => by cases h _ hmem
  have hnone : rs.filterMap Reply.symbol? = [] := by
    rw [List.filterMap_eq_nil_iff]
    intro reply hmem
    rw [h reply hmem]
    rfl
  rw [positionAfter, if_neg hended, hnone, List.length_nil]

lemma length_of_positionAfter {rs : List Reply} {n : Nat} (h : positionAfter rs = some n) :
    n = (rs.filterMap Reply.symbol?).length := by
  unfold positionAfter at h
  split_ifs at h
  exact (Option.some.inj h).symm

lemma positionAfter_ended (rs : List Reply) : positionAfter (rs ++ [.ended]) = none := by
  simp [positionAfter]

lemma positionAfter_yielded {rs : List Reply} {n : Nat} (h : positionAfter rs = some n)
    (s : Symbol) : positionAfter (rs ++ [.yielded s]) = some (n + 1) := by
  unfold positionAfter at h ⊢
  split_ifs at h with hended
  obtain rfl := Option.some.inj h
  simp [hended, Reply.symbol?]

/-- The ways in which a step of a walk goes. -/
inductive CursorStep (c : Cursor) (t : SymbolTable) : Prop
  | finished (position : c.position = none) (next : c.next t = (none, c))
  | yields {n : Nat} {s : Symbol} (position : c.position = some n) (symbol : t.symbols[n]? = some s)
      (next : c.next t = (some s, ⟨some (n + 1)⟩))
  | ends {n : Nat} (position : c.position = some n) (symbol : t.symbols[n]? = none)
      (next : c.next t = (none, ⟨none⟩))

lemma next_cases (c : Cursor) (t : SymbolTable) : CursorStep c t := by
  cases hp : c.position with
  | none => exact .finished hp (by rw [Cursor.next, hp])
  | some n =>
    cases hs : t.symbols[n]? with
    | none => exact .ends hp hs (by simp only [Cursor.next, hp, hs])
    | some s => exact .yields hp hs (by simp only [Cursor.next, hp, hs])

lemma pastWith_next (past : Nat → List Reply) (i : Nat) (reply : Reply) :
    pastWith past (.next i) reply i = past i ++ [reply] := by
  rw [pastWith, if_pos rfl]

lemma pastWith_other {act : Act} {i : Nat} (h : act ≠ .next i) (past : Nat → List Reply)
    (reply : Reply) : pastWith past act reply i = past i := by
  rw [pastWith, if_neg h, List.append_nil]

lemma next_ne {i j : Nat} (h : i ≠ j) : Act.next i ≠ .next j := fun he => h (Act.next.inj he)

lemma fits_moved (h : Fits w past) {i : Nat} {c c' : Cursor} {reply : Reply}
    (hc : w.cursors[i]? = some c) (hposition : c'.position = positionAfter (past i ++ [reply]))
    (hyields : (past i ++ [reply]).filterMap Reply.symbol? <+: w.table.symbols) :
    Fits { w with cursors := w.cursors.set i c' } (pastWith past (.next i) reply) := by
  have hi : i < w.cursors.length := (List.getElem?_eq_some_iff.mp hc).1
  refine ⟨fun j d hd => ?_, fun j => ?_, fun j hj => ?_⟩
  · by_cases hij : i = j
    · subst hij
      rw [List.getElem?_set_self hi] at hd
      rw [pastWith_next, ← Option.some.inj hd, hposition]
    · rw [List.getElem?_set_ne hij] at hd
      rw [pastWith_other (next_ne hij)]
      exact h.position j d hd
  · by_cases hij : i = j
    · subst hij
      rw [pastWith_next]
      exact hyields
    · rw [pastWith_other (next_ne hij)]
      exact h.yields j
  · have hij : i ≠ j := by
      rintro rfl
      rw [List.getElem?_set_self hi] at hj
      cases hj
    rw [List.getElem?_set_ne hij] at hj
    rw [pastWith_other (next_ne hij)]
    exact h.idle j hj

/-- A walk is answered by its position, and its replies tell the new one. -/
lemma fits_next (h : Fits w past) (i : Nat) :
    Fits (w.step (.next i)).2 (pastWith past (.next i) (w.step (.next i)).1) := by
  rw [Walks.step]
  cases hc : w.cursors[i]? with
  | none =>
    refine ⟨fun j c hj => ?_, fun j => ?_, fun j hj => ?_⟩
    · have hij : i ≠ j := by
        rintro rfl
        cases hc.symm.trans hj
      rw [pastWith_other (next_ne hij)]
      exact h.position j c hj
    · by_cases hij : i = j
      · subst hij
        rw [pastWith_next, List.filterMap_append]
        exact (List.append_nil _).symm ▸ h.yields i
      · rw [pastWith_other (next_ne hij)]
        exact h.yields j
    · by_cases hij : i = j
      · subst hij
        rw [pastWith_next]
        exact List.forall_mem_append.mpr ⟨h.idle i hj, List.forall_mem_singleton.mpr rfl⟩
      · rw [pastWith_other (next_ne hij)]
        exact h.idle j hj
  | some c =>
    have hposition := h.position i c hc
    have hyields := h.yields i
    have hlast : ∀ reply, (past i ++ [reply]).filterMap Reply.symbol? =
        (past i).filterMap Reply.symbol? ++ reply.symbol?.toList := by
      intro reply
      rw [List.filterMap_append]
      cases reply <;> rfl
    cases next_cases c w.table with
    | finished hnone hnext =>
      have hended : .ended ∈ past i := by
        by_contra hgoes
        rw [hposition, positionAfter, if_neg hgoes] at hnone
        cases hnone
      simp only [hnext]
      apply fits_moved h hc
      · rw [hnone]
        exact (positionAfter_ended _).symm
      · rw [hlast]
        simpa [Reply.symbol?] using hyields
    | yields hn hs hnext =>
      rw [hposition] at hn
      simp only [hnext]
      apply fits_moved h hc
      · exact (positionAfter_yielded hn _).symm
      · rw [hlast]
        exact prefix_snoc hyields (length_of_positionAfter hn ▸ hs)
    | ends hn hs hnext =>
      simp only [hnext]
      apply fits_moved h hc
      · exact (positionAfter_ended _).symm
      · rw [hlast]
        simpa [Reply.symbol?] using hyields

theorem fits_step (h : Fits w past) (act : Act) :
    Fits (w.step act).2 (pastWith past act (w.step act).1) := by
  cases act with
  | next i => exact fits_next h i
  | insert d =>
    have hpast : ∀ reply, pastWith past (.insert d) reply = past :=
      fun reply => funext fun i => pastWith_other (by simp) past reply
    rw [hpast]
    have hgrows := symbols_prefix_afterDeclarations w.table [d]
    have htable := table_step w (.insert d)
    have hcursors : (w.step (.insert d)).2.cursors = w.cursors := by
      rw [Walks.step]
      cases w.table.insert d with
      | ok t => rfl
      | error e => rfl
    refine ⟨?_, fun i => ?_, ?_⟩
    · rw [hcursors]
      exact h.position
    · rw [htable]
      exact (h.yields i).trans hgrows
    · rw [hcursors]
      exact h.idle
  | start =>
    have hpast : ∀ reply, pastWith past .start reply = past :=
      fun reply => funext fun i => pastWith_other (by simp) past reply
    rw [hpast]
    refine ⟨fun i c hc => ?_, h.yields, fun i hi => ?_⟩
    · by_cases hlt : i < w.cursors.length
      · rw [Walks.step, List.getElem?_append_left hlt] at hc
        exact h.position i c hc
      · have hge : w.cursors.length ≤ i := Nat.le_of_not_lt hlt
        rw [Walks.step, List.getElem?_append_right hge, List.getElem?_singleton] at hc
        split_ifs at hc
        obtain rfl := Option.some.inj hc
        exact (positionAfter_idle (h.idle i (List.getElem?_eq_none hge))).symm
    · rw [Walks.step, List.getElem?_eq_none_iff, List.length_append] at hi
      exact h.idle i (List.getElem?_eq_none (Nat.le_trans (Nat.le_add_right _ _) hi))

lemma fits_run (h : Fits w past) (acts : List Act) :
    Fits (w.run acts) fun i => past i ++ w.replies i acts := by
  induction acts generalizing w past with
  | nil => simpa only [Walks.run, Walks.replies, List.append_nil] using h
  | cons act acts ih =>
    have hrest := ih (fits_step h act)
    have hpast : (fun i => pastWith past act (w.step act).1 i ++ (w.step act).2.replies i acts) =
        fun i => past i ++ w.replies i (act :: acts) := by
      funext i
      rw [pastWith, Walks.replies]
      split_ifs with hact
      · simp
      · simp
    rwa [hpast] at hrest

theorem fits_afterActs (t : SymbolTable) (acts : List Act) :
    Fits (afterActs t acts) fun i => Walks.replies { table := t } i acts := by
  have hnew : Fits { table := t } fun _ => [] :=
    ⟨fun i c hc => by simp at hc, fun i => List.nil_prefix, fun i _ reply hr => by cases hr⟩
  have hrun := fits_run hnew acts
  simp only [List.nil_append] at hrun
  exact hrun

end Positions

section Replies

variable {t : SymbolTable} {acts : List Act} {i : Nat}

lemma replies_snoc (t : SymbolTable) (acts : List Act) (i : Nat) (act : Act) :
    Walks.replies { table := t } i (acts ++ [act]) =
      Walks.replies { table := t } i acts ++
        if act = .next i then [replyTo t acts act] else [] := by
  rw [replies_append]
  rfl

lemma exists_cursor (started : i < acts.count .start) :
    ∃ c, (afterActs t acts).cursors[i]? = some c := by
  have hlength : (afterActs t acts).cursors.length = 0 + acts.count .start :=
    length_cursors_run { table := t } acts
  have hi : i < (afterActs t acts).cursors.length := by omega
  exact ⟨_, List.getElem?_eq_getElem hi⟩

lemma replyTo_of_ended (h : HasEnded t acts i) : replyTo t acts (.next i) = .ended := by
  have hfits := fits_afterActs t acts
  rw [replyTo, Walks.step]
  cases hc : (afterActs t acts).cursors[i]? with
  | none => cases hfits.idle i hc _ h
  | some c =>
    have hposition : c.position = none := (hfits.position i c hc).trans (if_pos h)
    simp only [Cursor.next, hposition, Option.elim_none]

lemma replyTo_of_not_ended (started : i < acts.count .start) (h : ¬HasEnded t acts i) :
    replyTo t acts (.next i) =
      ((afterActs t acts).table.symbols[(yielded t acts i).length]?).elim .ended .yielded := by
  obtain ⟨c, hc⟩ := exists_cursor started
  have hposition : c.position = some (yielded t acts i).length :=
    ((fits_afterActs t acts).position i c hc).trans (if_neg h)
  rw [replyTo, Walks.step, hc]
  simp only [Cursor.next, hposition]
  cases (afterActs t acts).table.symbols[(yielded t acts i).length]? with
  | none => rfl
  | some s => rfl

lemma hasEnded_append (h : HasEnded t acts i) (more : List Act) :
    HasEnded t (acts ++ more) i := by
  rw [HasEnded, replies_append]
  exact List.mem_append_left _ h

lemma yielded_of_ended (h : HasEnded t acts i) (more : List Act) :
    yielded t (acts ++ more) i = yielded t acts i := by
  induction more using List.reverseRecOn with
  | nil => rw [List.append_nil]
  | append_singleton more act ih =>
    rw [← List.append_assoc, yielded, replies_snoc, List.filterMap_append, ← ih, yielded]
    split_ifs with hact
    · rw [hact, replyTo_of_ended (hasEnded_append h more)]
      exact List.append_nil _
    · exact List.append_nil _

end Replies

section Alone

/-- A walk among others, and the same walk as the only one. -/
structure Isolates (i : Nat) (w w' : Walks) : Prop where
  table : w'.table = w.table
  cursors : w'.cursors = w.cursors[i]?.toList

variable {i : Nat} {w w' : Walks}

lemma isolates_insert (h : Isolates i w w') (d : Declaration) :
    Isolates i (w.step (.insert d)).2 (w'.step (.insert d)).2 := by
  rw [Walks.step, Walks.step, h.table]
  cases w.table.insert d with
  | ok t => exact ⟨rfl, h.cursors⟩
  | error e => exact h

lemma isolates_own_start (h : Isolates i w w') (hi : w.cursors.length = i) :
    Isolates i (w.step .start).2 (w'.step .start).2 := by
  refine ⟨h.table, ?_⟩
  change w'.cursors ++ [({} : Cursor)] = (w.cursors ++ [({} : Cursor)])[i]?.toList
  subst hi
  rw [h.cursors, List.getElem?_eq_none (Nat.le_refl _), List.getElem?_concat_length]
  rfl

lemma isolates_start (h : Isolates i w w') (hi : w.cursors.length ≠ i) :
    Isolates i (w.step .start).2 w' := by
  refine ⟨h.table, ?_⟩
  change w'.cursors = (w.cursors ++ [({} : Cursor)])[i]?.toList
  rw [h.cursors]
  obtain hlt | hgt := Nat.lt_or_gt_of_ne hi
  · rw [List.getElem?_eq_none (Nat.le_of_lt hlt), List.getElem?_eq_none]
    rw [List.length_append]
    exact hlt
  · rw [List.getElem?_append_left hgt]

lemma isolates_own_next (h : Isolates i w w') :
    (w'.step (.next 0)).1 = (w.step (.next i)).1 ∧
      Isolates i (w.step (.next i)).2 (w'.step (.next 0)).2 := by
  have honly : w'.cursors[0]? = w.cursors[i]? := by
    rw [h.cursors]
    cases w.cursors[i]? with
    | none => rfl
    | some c => rfl
  rw [Walks.step, Walks.step, honly, h.table]
  cases hc : w.cursors[i]? with
  | none => exact ⟨rfl, h⟩
  | some c =>
    have hi : i < w.cursors.length := (List.getElem?_eq_some_iff.mp hc).1
    refine ⟨rfl, rfl, ?_⟩
    rw [h.cursors, hc, List.getElem?_set_self hi]
    rfl

lemma isolates_next (h : Isolates i w w') {j : Nat} (hj : j ≠ i) :
    Isolates i (w.step (.next j)).2 w' := by
  rw [Walks.step]
  cases w.cursors[j]? with
  | none => exact h
  | some c => exact ⟨h.table, by rw [h.cursors, List.getElem?_set_ne hj]⟩

/-- A walk gets the replies that it would get without the others. -/
theorem replies_alone (h : Isolates i w w') (acts : List Act) :
    w.replies i acts = w'.replies 0 (alone i w.cursors.length acts) := by
  induction acts generalizing w w' with
  | nil => rfl
  | cons act acts ih =>
    have hlength := length_cursors_step w act
    cases act with
    | insert d =>
      have hrest := ih (isolates_insert h d)
      rw [hlength] at hrest
      exact hrest
    | start =>
      by_cases hi : w.cursors.length = i
      · have hrest := ih (isolates_own_start h hi)
        rw [hlength] at hrest
        rw [alone, if_pos hi]
        exact hrest
      · have hrest := ih (isolates_start h hi)
        rw [hlength] at hrest
        rw [alone, if_neg hi]
        exact hrest
    | next j =>
      by_cases hj : j = i
      · subst hj
        obtain ⟨hreply, hnext⟩ := isolates_own_next h
        have hrest := ih hnext
        rw [hlength] at hrest
        rw [alone, if_pos rfl, Walks.replies, if_pos rfl, Walks.replies, if_pos rfl, hreply, hrest]
        rfl
      · have hrest := ih (isolates_next h hj)
        rw [hlength] at hrest
        rw [alone, if_neg hj, Walks.replies, if_neg (next_ne hj)]
        exact hrest

end Alone

/-- Walks are lazy and faithful. Whatever is declared, started and stepped in whatever order, every
walk yields the first symbols of the table, and ends when it has yielded all there are. -/
theorem walk_follows_table (t : SymbolTable) (acts : List Act) (i : Nat)
    (started : i < acts.count .start) : FollowsTable t acts i := by
  have hbegin : yielded t acts i <+: (afterActs t acts).table.symbols :=
    (fits_afterActs t acts).yields i
  have hlength := hbegin.length_le
  refine ⟨hbegin, fun more => ?_, ?_, fun s => ?_, yielded_of_ended, table_run _ acts, ?_⟩
  · rw [afterActs, afterActs, run_append, table_run (Walks.run _ acts)]
    exact symbols_prefix_afterDeclarations _ _
  · by_cases hended : HasEnded t acts i
    · exact iff_of_true (replyTo_of_ended hended) (Or.inl hended)
    · rw [replyTo_of_not_ended started hended, or_iff_right hended, SymbolTable.size]
      cases hs : (afterActs t acts).table.symbols[(yielded t acts i).length]? with
      | none =>
        have hge := List.getElem?_eq_none_iff.mp hs
        exact iff_of_true rfl (Nat.le_antisymm hlength hge)
      | some s =>
        have hlt := (List.getElem?_eq_some_iff.mp hs).1
        exact iff_of_false (by simp) (Nat.ne_of_lt hlt)
  · by_cases hended : HasEnded t acts i
    · rw [replyTo_of_ended hended]
      exact iff_of_false (by simp) fun h => h.1 hended
    · rw [replyTo_of_not_ended started hended, and_iff_right hended]
      cases (afterActs t acts).table.symbols[(yielded t acts i).length]? with
      | none => simp
      | some s' => simp
  · exact replies_alone ⟨rfl, rfl⟩ acts

/-- Two walks in turns with three declarations, one of which is refused. The first walk ends before
the second symbol is declared. -/
theorem two_walks_in_turns :
    let t : SymbolTable := {}
    let declare := fun name => Act.insert ⟨name, 1, 0, none⟩
    let acts := [declare ['a'], .start, .next 0, .next 0, declare ['A'], .start, .next 1,
      declare ['b'], .next 0, .next 1, .next 1]
    0 < acts.count .start ∧ 1 < acts.count .start ∧ FollowsTable t acts 0 ∧ FollowsTable t acts 1 ∧
      (yielded t acts 0).map Symbol.name = [['a']] ∧
      (yielded t acts 1).map Symbol.name = [['a'], ['b']] := by
  intro t declare acts
  have hfirst : 0 < acts.count .start := by decide
  have hsecond : 1 < acts.count .start := by decide
  exact ⟨hfirst, hsecond, walk_follows_table t acts 0 hfirst, walk_follows_table t acts 1 hsecond,
    by decide +kernel, by decide +kernel⟩

end OnePass.Proofs
