import AdFilter.Proofs.Rule.Representation

/-!
# Calls that change the rules at the same time

Several calls may be at work on the rules at once. Each takes one or two steps, and any number of
steps of the others may come between the two: first it looks at the set (`RuleSet.look?`), which may
show that there is nothing to write and end the call; otherwise it writes its change into the set as
it is by then (`RuleSet.write`). What a call saw may be out of date when it writes.

The calls act as if each ran by itself, in the order in which they end (`Writers.Explained`). A call
that ends at its look finds its change made already, and one that ends by writing makes it in full,
whatever it saw. `Writers.calls_spec` says so for any number of calls and any order of their steps.
-/

namespace AdFilter

/-- What a call is answered. -/
inductive Reply where
  | done
  /-- whether the source writes a pattern -/
  | added (ok : Bool)
deriving Repr, DecidableEq

namespace RuleSet

variable {s : RuleSet} {c : RuleChange} {a : Reply}

/-- What a change is answered when it is made all at once. -/
def reply (s : RuleSet) : RuleChange → Reply
  | .addPattern source => .added (s.addPattern? source).isSome
  | _ => .done

/-! ## The two steps of a call -/

/-- The first step of a call: the answer, if there is nothing to write. -/
def look? (s : RuleSet) : RuleChange → Option Reply
  | .addDomain d =>
    if (normalDomain d).isEmpty || s.domains.contains (normalDomain d) then some .done else none
  | .removeDomain d => if s.domains.contains (normalDomain d) then none else some .done
  | .addPattern source =>
    match PatternRule.ofSource? source with
    | none => some (.added false)
    | some _ => if s.hasSource source then some (.added true) else none
  | .apply l =>
    -- this look is at the batch alone
    let batch := Batch.ofList l
    if batch.domains.isEmpty && batch.patterns.isEmpty then some .done else none

/-- The second step of a call: it asks no more whether its change is made already. -/
def write (s : RuleSet) : RuleChange → RuleSet
  | .addDomain d => { s with domains := s.domains.insert (normalDomain d) }
  | .removeDomain d => s.removeDomain d
  | .addPattern source => ((PatternRule.ofSource? source).map s.insertPattern).getD s
  | .apply l => s.apply (Batch.ofList l)

/-- What a call is answered that has written. -/
def written : RuleChange → Reply
  | .addPattern _ => .added true
  | _ => .done

/-- A change that is not worth writing makes no difference. -/
theorem change_of_look? (h : s.look? c = some a) : s.change c = s := by
  cases c with
  | addDomain d =>
    rw [look?, Option.ite_none_right_eq_some, Bool.or_eq_true, List.contains_iff_mem] at h
    rw [change, addDomain]
    split
    · rfl
    · rename_i hne
      rw [List.insert_of_mem (h.1.resolve_left hne)]
  | removeDomain d =>
    rw [look?, Option.ite_none_left_eq_some, List.contains_iff_mem] at h
    rw [change, removeDomain, List.erase_of_not_mem h.1]
  | addPattern source =>
    rw [look?] at h
    rw [change, addPattern?]
    rcases hp : PatternRule.ofSource? source with _ | p
    · rfl
    · simp only [hp, Option.ite_none_right_eq_some] at h
      rw [← PatternRule.source_of_ofSource? hp] at h
      rw [Option.map_some, Option.getD_some, insertPattern, if_pos h.1]
  | apply l =>
    rw [look?, Option.ite_none_right_eq_some, Bool.and_eq_true, List.isEmpty_iff,
      List.isEmpty_iff] at h
    rw [change, apply, h.1.1, h.1.2]
    rfl

/-- A call that ends at its look is answered as if it made its change. -/
theorem reply_of_look? (h : s.look? c = some a) : s.reply c = a := by
  cases c with
  | addDomain d =>
    rw [look?, Option.ite_none_right_eq_some] at h
    exact Option.some.inj h.2
  | removeDomain d =>
    rw [look?, Option.ite_none_left_eq_some] at h
    exact Option.some.inj h.2
  | addPattern source =>
    rw [look?] at h
    rw [RuleSet.reply, addPattern?]
    rcases hp : PatternRule.ofSource? source with _ | p
    · simp only [hp] at h
      exact Option.some.inj h
    · simp only [hp, Option.ite_none_right_eq_some] at h
      exact Option.some.inj h.2
  | apply l =>
    rw [look?, Option.ite_none_right_eq_some] at h
    exact Option.some.inj h.2

/-- What is found worth writing in one set is written in full into any other. -/
theorem write_of_look? (h : s.look? c = none) (t : RuleSet) : t.write c = t.change c := by
  cases c with
  | addDomain d =>
    rw [look?, ite_eq_right_iff, Bool.or_eq_true] at h
    have hne : ¬ (normalDomain d).isEmpty = true := fun hempty => by cases h (Or.inl hempty)
    rw [write, change, addDomain, if_neg hne]
  | removeDomain d => rfl
  | addPattern source => rfl
  | apply l => rfl

/-- What is found worth writing in one set is answered alike in any other. -/
theorem reply_of_look?_eq_none (h : s.look? c = none) (t : RuleSet) : t.reply c = written c := by
  cases c with
  | addDomain d => rfl
  | removeDomain d => rfl
  | addPattern source =>
    rw [look?] at h
    rw [RuleSet.reply, addPattern?, written]
    rcases hp : PatternRule.ofSource? source with _ | p
    · simp only [hp] at h
      cases h
    · rfl
  | apply l => rfl

end RuleSet

/-! ## Calls and their steps -/

/-- How far a call has come. -/
inductive CallPhase where
  | waiting
  /-- it has looked, and is about to write -/
  | looked
  | ended
deriving Repr, DecidableEq

/-- The rules, and calls that are at work on them. -/
structure Writers (ι : Type) where
  rules : RuleSet
  phase : ι → CallPhase := fun _ => .waiting
  /-- the calls that have ended, the first one first, with what they were answered -/
  log : List (ι × Reply) := []

namespace Writers

variable {ι : Type}

/-- The calls that have ended, in the order in which they did. -/
def order (w : Writers ι) : List ι := w.log.map Prod.fst

variable [DecidableEq ι] {call : ι → RuleChange} {s : RuleSet} {w : Writers ι} {i j : ι}

/-- A call comes to a phase. -/
def setPhase (w : Writers ι) (i : ι) (phase : CallPhase) : Writers ι :=
  { w with phase := Function.update w.phase i phase }

/-- A call ends with an answer. -/
def finish (w : Writers ι) (i : ι) (a : Reply) : Writers ι :=
  { w.setPhase i .ended with log := w.log ++ [(i, a)] }

/-- The next step of a call. -/
def step (call : ι → RuleChange) (w : Writers ι) (i : ι) : Writers ι :=
  match w.phase i with
  | .waiting =>
    match w.rules.look? (call i) with
    | some a => w.finish i a
    | none => w.setPhase i .looked
  | .looked => { w with rules := w.rules.write (call i) }.finish i (RuleSet.written (call i))
  | .ended => w

/-- Lets the calls take their steps in the order of a schedule. -/
def run (w : Writers ι) (call : ι → RuleChange) (schedule : List ι) : Writers ι :=
  schedule.foldl (step call) w

/-- Makes the change of a call all at once. -/
def change (call : ι → RuleChange) (w : Writers ι) (i : ι) : Writers ι :=
  { w with rules := w.rules.change (call i) }.finish i (w.rules.reply (call i))

@[simp] theorem phase_setPhase_self {phase : CallPhase} : (w.setPhase i phase).phase i = phase :=
  Function.update_self ..

@[simp] theorem phase_setPhase_of_ne {phase : CallPhase} (h : j ≠ i) :
    (w.setPhase i phase).phase j = w.phase j := Function.update_of_ne h ..

@[simp] theorem phase_finish {a : Reply} : (w.finish i a).phase = (w.setPhase i .ended).phase := rfl

theorem run_append (w : Writers ι) (before after : List ι) :
    w.run call (before ++ after) = (w.run call before).run call after := List.foldl_append

theorem order_change : (w.change call i).order = w.order ++ [i] := List.map_append

/-- A call writes its change in full, whatever it saw when it found that worth it. -/
theorem step_of_looked {t : RuleSet} (h : w.phase i = .looked) (ht : t.look? (call i) = none) :
    w.step call i = w.change call i := by
  rw [step, h, change, ← RuleSet.write_of_look? ht, RuleSet.reply_of_look?_eq_none ht]

/-- A call that waits makes its change, as far as that makes a difference, or looks only. -/
theorem step_of_waiting (h : w.phase i = .waiting) :
    w.step call i = w.change call i ∨
      (w.rules.look? (call i) = none ∧ w.step call i = w.setPhase i .looked) := by
  rw [step, h]
  rcases hlook : w.rules.look? (call i) with _ | a
  · exact Or.inr ⟨rfl, rfl⟩
  · refine Or.inl ?_
    rw [change, RuleSet.change_of_look? hlook, RuleSet.reply_of_look? hlook]

theorem step_of_ended (h : w.phase i = .ended) : w.step call i = w := by
  rw [step, h]

/-- A call that no other gets in the way of makes its change. -/
theorem run_alone (h : w.phase i = .waiting) : w.run call [i, i] = w.change call i := by
  change (w.step call i).step call i = _
  rcases step_of_waiting h with hstep | ⟨hlook, hstep⟩
  · rw [hstep]
    exact step_of_ended phase_setPhase_self
  · rw [hstep, step_of_looked phase_setPhase_self hlook, change, change, finish, finish, setPhase,
      setPhase, setPhase, Function.update_idem]

/-- Calls of which each takes its two steps before the next one begins make their changes one after
the other. -/
theorem run_one_by_one {calls : List ι} (hcalls : calls.Nodup)
    (hw : ∀ i ∈ calls, w.phase i = .waiting) :
    w.run call (calls.flatMap fun i => [i, i]) = calls.foldl (change call) w := by
  induction calls generalizing w with
  | nil => rfl
  | cons i calls ih =>
    obtain ⟨hi, hrest⟩ := List.nodup_cons.mp hcalls
    rw [List.flatMap_cons, run_append, run_alone (hw i (List.mem_cons_self ..)), List.foldl_cons]
    refine ih hrest fun j hj => ?_
    have hne : j ≠ i := fun h => hi (h ▸ hj)
    rw [change, phase_finish, phase_setPhase_of_ne hne]
    exact hw j (List.mem_cons_of_mem _ hj)

theorem order_foldl_change {calls : List ι} :
    (calls.foldl (change call) w).order = w.order ++ calls := by
  induction calls generalizing w with
  | nil => exact (List.append_nil _).symm
  | cons i calls ih =>
    rw [List.foldl_cons, ih, order_change, List.append_assoc, List.singleton_append]

theorem phase_step_of_ne (h : j ≠ i) : (w.step call i).phase j = w.phase j := by
  rw [step]
  split
  · split
    · rw [phase_finish, phase_setPhase_of_ne h]
    · rw [phase_setPhase_of_ne h]
  · rw [phase_finish, phase_setPhase_of_ne h]
  · rfl

/-! ## What explains a run -/

/-- The calls have acted as if each ran by itself, in the order in which they ended. -/
structure Explained (call : ι → RuleChange) (s : RuleSet) (w : Writers ι) : Prop where
  nodup : w.order.Nodup
  mem_order : ∀ i, i ∈ w.order ↔ w.phase i = .ended
  rules : w.rules = s.changeAll (w.order.map call)
  replies : ∀ before i a after, w.log = before ++ (i, a) :: after →
    a = (s.changeAll (before.map fun e => call e.1)).reply (call i)
  /-- what is about to be written was once found worth it -/
  looked : ∀ i, w.phase i = .looked → ∃ t : RuleSet, t.look? (call i) = none

namespace Explained

omit [DecidableEq ι] in
theorem start (call : ι → RuleChange) (s : RuleSet) : Explained call s { rules := s } where
  nodup := List.nodup_nil
  mem_order i := by simp [order]
  rules := rfl
  replies before i a after h := absurd h.symm
    (List.append_ne_nil_of_right_ne_nil _ (List.cons_ne_nil _ _))
  looked i h := absurd h CallPhase.noConfusion

theorem change (hw : w.Explained call s) (hi : w.phase i ≠ .ended) :
    (w.change call i).Explained call s where
  nodup := by
    rw [order_change, List.nodup_append]
    refine ⟨hw.nodup, List.nodup_singleton i, fun k hk l hl hkl => hi ?_⟩
    rw [← hw.mem_order, ← List.mem_singleton.mp hl, ← hkl]
    exact hk
  mem_order k := by
    rw [order_change, List.mem_append, List.mem_singleton, hw.mem_order, Writers.change,
      phase_finish]
    rcases eq_or_ne k i with rfl | hne
    · rw [phase_setPhase_self]
      exact ⟨fun _ => rfl, fun _ => Or.inr rfl⟩
    · rw [phase_setPhase_of_ne hne]
      exact or_iff_left hne
  rules := by
    rw [order_change, List.map_append, RuleSet.changeAll_append, ← hw.rules]
    rfl
  replies before k a after h := by
    -- the last answer is given now, the others were given before
    rcases List.eq_nil_or_concat after with rfl | ⟨init, last, rfl⟩
    · obtain ⟨hbefore, hlast⟩ := List.append_inj' h rfl
      obtain ⟨rfl, rfl⟩ := Prod.mk.inj (List.cons.inj hlast).1
      rw [hw.rules, order, List.map_map, ← hbefore]
      rfl
    · rw [List.concat_eq_append, ← List.cons_append, ← List.append_assoc] at h
      exact hw.replies before k a init (List.append_inj' h rfl).1
  looked k h := by
    rw [Writers.change, phase_finish] at h
    rcases eq_or_ne k i with rfl | hne
    · rw [phase_setPhase_self] at h
      cases h
    · rw [phase_setPhase_of_ne hne] at h
      exact hw.looked k h

theorem look (hw : w.Explained call s) (hi : w.phase i ≠ .ended)
    (hlook : w.rules.look? (call i) = none) : (w.setPhase i .looked).Explained call s where
  nodup := hw.nodup
  mem_order k := by
    refine (hw.mem_order k).trans ?_
    rcases eq_or_ne k i with rfl | hne
    · rw [phase_setPhase_self]
      exact iff_of_false hi (by decide)
    · rw [phase_setPhase_of_ne hne]
  rules := hw.rules
  replies := hw.replies
  looked k h := by
    rcases eq_or_ne k i with rfl | hne
    · exact ⟨w.rules, hlook⟩
    · rw [phase_setPhase_of_ne hne] at h
      exact hw.looked k h

theorem step (hw : w.Explained call s) (i : ι) : (w.step call i).Explained call s := by
  rcases hphase : w.phase i with _ | _ | _
  · have hi : w.phase i ≠ .ended := by rw [hphase]; decide
    rcases step_of_waiting hphase with hstep | ⟨hlook, hstep⟩
    · rw [hstep]
      exact hw.change hi
    · rw [hstep]
      exact hw.look hi hlook
  · have hi : w.phase i ≠ .ended := by rw [hphase]; decide
    obtain ⟨t, ht⟩ := hw.looked i hphase
    rw [step_of_looked hphase ht]
    exact hw.change hi
  · rw [step_of_ended hphase]
    exact hw

theorem run (hw : w.Explained call s) (schedule : List ι) :
    (w.run call schedule).Explained call s := by
  induction schedule generalizing w with
  | nil => exact hw
  | cons i schedule ih => exact ih (hw.step i)

omit [DecidableEq ι] in
/-- The answer to a call hangs on nothing but what came before it in the order. -/
theorem getElem_log (hw : w.Explained call s) {n : Nat} (hn : n < w.log.length) :
    w.log[n].2 = (s.changeAll ((w.order.take n).map call)).reply (call w.log[n].1) := by
  have hsplit : w.log = w.log.take n ++ (w.log[n].1, w.log[n].2) :: w.log.drop (n + 1) := by
    rw [List.getElem_cons_drop, List.take_append_drop]
  rw [hw.replies _ _ _ _ hsplit, order, ← List.map_take, List.map_map]
  rfl

omit [DecidableEq ι] in
theorem log_eq {v : Writers ι} (hv : v.Explained call s) (hw : w.Explained call s)
    (h : v.order = w.order) : v.log = w.log := by
  have hlength : v.log.length = w.log.length := by simpa [order] using congrArg List.length h
  refine List.ext_getElem hlength fun n hn hn' => ?_
  have hn'' : n < v.order.length := by rwa [order, List.length_map]
  have hcall : v.log[n].1 = w.log[n].1 := by simpa [order] using List.getElem_of_eq h hn''
  refine Prod.ext hcall ?_
  rw [hv.getElem_log hn, hw.getElem_log hn', h, hcall]

end Explained

/-! ## Progress -/

/-- Answers are only added. -/
theorem log_prefix_step : w.log <+: (w.step call i).log := by
  rw [step]
  split
  · split
    · exact List.prefix_append ..
    · exact List.prefix_rfl
  · exact List.prefix_append ..
  · exact List.prefix_rfl

theorem log_prefix_run (schedule : List ι) : w.log <+: (w.run call schedule).log := by
  induction schedule generalizing w with
  | nil => exact List.prefix_rfl
  | cons i schedule ih => exact log_prefix_step.trans ih

theorem phase_run_of_not_mem {schedule : List ι} (h : j ∉ schedule) :
    (w.run call schedule).phase j = w.phase j := by
  induction schedule generalizing w with
  | nil => rfl
  | cons i schedule ih =>
    obtain ⟨hne, hrest⟩ := List.ne_and_not_mem_of_not_mem_cons h
    exact (ih hrest).trans (phase_step_of_ne hne)

/-- A call waits no more once it has taken a step. -/
theorem phase_step_ne_waiting : (w.step call i).phase i ≠ .waiting := by
  rw [step]
  split
  · split <;> simp
  · simp
  · rename_i h
    rw [h]
    decide

/-- A call that waits no more ends with its next step. -/
theorem phase_step_eq_ended (h : w.phase i ≠ .waiting) : (w.step call i).phase i = .ended := by
  rw [step]
  split
  · exact absurd ‹_› h
  · simp
  · assumption

theorem phase_run_of_ended (h : w.phase i = .ended) (schedule : List ι) :
    (w.run call schedule).phase i = .ended := by
  induction schedule generalizing w with
  | nil => exact h
  | cons k schedule ih =>
    refine ih ?_
    rcases eq_or_ne i k with rfl | hne
    · exact phase_step_eq_ended (by rw [h]; decide)
    · rw [phase_step_of_ne hne, h]

theorem phase_run_of_mem {schedule : List ι} (h : w.phase i ≠ .waiting) (hmem : i ∈ schedule) :
    (w.run call schedule).phase i = .ended := by
  obtain ⟨before, after, rfl, hbefore⟩ := List.eq_append_cons_of_mem hmem
  rw [run_append]
  refine phase_run_of_ended (phase_step_eq_ended ?_) after
  rw [phase_run_of_not_mem hbefore]
  exact h

/-- Two steps are enough for any call. -/
theorem phase_run_of_two_le_count {schedule : List ι} (h : 2 ≤ schedule.count i) :
    (w.run call schedule).phase i = .ended := by
  have hmem : i ∈ schedule := List.count_pos_iff.mp (by omega)
  obtain ⟨before, after, rfl, hbefore⟩ := List.eq_append_cons_of_mem hmem
  rw [List.count_append, List.count_eq_zero.mpr hbefore, List.count_cons_self] at h
  have hafter : i ∈ after := List.count_pos_iff.mp (by omega)
  rw [run_append]
  change (((w.run call before).step call i).run call after).phase i = .ended
  exact phase_run_of_mem phase_step_ne_waiting hafter

/-! ## Every run is explained -/

/-- A call that ended before another took its first step comes first. -/
theorem sublist_order (before after : List ι) (hi : i ∈ (w.run call before).order)
    (hj : j ∉ (w.run call before).order) (hj' : j ∈ (w.run call (before ++ after)).order) :
    [i, j].Sublist (w.run call (before ++ after)).order := by
  have hprefix : (w.run call before).order <+: (w.run call (before ++ after)).order := by
    rw [run_append]
    exact (log_prefix_run after).map Prod.fst
  obtain ⟨later, hlater⟩ := hprefix
  rw [← hlater, List.mem_append] at hj'
  rw [← hlater]
  exact (List.singleton_sublist.mpr hi).append (List.singleton_sublist.mpr (hj'.resolve_left hj))

/-- Calls that change the rules, any number of them, take their steps in any order, on the rules
that some history left behind. Each that takes two steps ends. Those that have ended at any time can
be put into an order, that in which they ended, in which a call comes before all that began after
its end. The rules and the answers are as if the calls had been made one after the other in this
order.

So what a call put in is there unless a call removed it that comes later; the source of a pattern
stays whenever it was offered, and it is there once. -/
theorem calls_spec (history : List RuleChange) (call : ι → RuleChange) (schedule : List ι) :
    let start : Writers ι := { rules := RuleSet.ofHistory history }
    let w := start.run call schedule
    let alone := start.run call (w.order.flatMap fun i => [i, i])
    (∀ i, 2 ≤ schedule.count i → i ∈ w.order) ∧
      w.order.Nodup ∧ (∀ i ∈ w.order, i ∈ schedule) ∧
      (∀ before after i j, schedule = before ++ after → i ∈ (start.run call before).order →
        j ∉ before → j ∈ w.order → [i, j].Sublist w.order) ∧
      w.rules = alone.rules ∧ w.log = alone.log ∧
      w.rules = (RuleSet.ofHistory history).changeAll (w.order.map call) ∧
      (∀ before i a after, w.log = before ++ (i, a) :: after →
        a = ((RuleSet.ofHistory history).changeAll (before.map fun e => call e.1)).reply (call i)) ∧
      (∀ d, d ∈ w.rules.domains ↔ Stored (history ++ w.order.map call) d) ∧
      (∀ source, source ∈ w.rules.sources ↔
        source ∈ offered (history ++ w.order.map call) ∧ writesPattern source = true) ∧
      w.rules.sources.Nodup := by
  intro start w alone
  have hexplained (schedule : List ι) : (start.run call schedule).Explained call _ :=
    (Explained.start call _).run schedule
  have hw : w.Explained call (RuleSet.ofHistory history) := hexplained schedule
  have halone : alone.Explained call (RuleSet.ofHistory history) := hexplained _
  have horder : alone.order = w.order := by
    have hrun : alone = w.order.foldl (change call) start :=
      run_one_by_one hw.nodup fun _ _ => rfl
    rw [hrun, order_foldl_change]
    rfl
  have hrules : w.rules = RuleSet.ofHistory (history ++ w.order.map call) := by
    rw [hw.rules, RuleSet.ofHistory, RuleSet.ofHistory, RuleSet.changeAll_append]
  -- a call that has taken no step has not ended
  have hunbegun (schedule : List ι) (k : ι) (h : k ∉ schedule) :
      k ∉ (start.run call schedule).order := by
    rw [(hexplained schedule).mem_order, phase_run_of_not_mem h]
    exact CallPhase.noConfusion
  refine ⟨fun i hi => ?_, hw.nodup, fun i hi => ?_, ?_, ?_, hw.log_eq halone horder.symm, hw.rules,
    hw.replies, fun d => ?_, fun source => ?_, ?_⟩
  · rw [hw.mem_order]
    exact phase_run_of_two_le_count hi
  · by_contra hnot
    exact hunbegun schedule i hnot hi
  · rintro before after i j rfl hi hj hj'
    exact sublist_order before after hi (hunbegun before j hj) hj'
  · rw [hw.rules, halone.rules, horder]
  · rw [hrules]
    exact RuleSet.mem_ofHistory
  · rw [hrules, RuleSet.sources_ofHistory, List.mem_eraseDups, List.mem_filter]
  · rw [hrules]
    exact (RuleSet.Valid.ofHistory _).sources_nodup

/-- Two calls offer the same source and both look before either writes. -/
example :
    let call : Bool → RuleChange := fun _ => .addPattern "ads".toList
    let w := (({ rules := {} } : Writers Bool).run call [false, true, true, false])
    w.rules.sources = ["ads".toList] ∧ w.log = [(true, .added true), (false, .added true)] := by
  decide

end Writers

end AdFilter
