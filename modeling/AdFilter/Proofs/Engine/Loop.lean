import AdFilter.Engine.System

/-!
# The loops that follow the clock

The library follows the clock in three loops, which differ only in when they stop. `System.follow`
is all three of them, so that what a step preserves is lifted to them once
(`System.follow_induction`).
-/

namespace AdFilter

namespace System

/-- Does what is due next, as long as there is something. -/
def follow (next? : System → Option (Nat × Event)) : Nat → System → System
  | 0, s => s
  | fuel + 1, s =>
    match next? s with
    | some (time, e) => follow next? fuel (s.step time e)
    | none => s

/-- What is due next, up to a time. -/
def dueBy? (stop : Nat) (s : System) : Option (Nat × Event) :=
  (earliest? s.events).filter (·.1 ≤ stop)

/-- What is due next while the pass that was asked for directly is under way. -/
def dueInPass? (s : System) : Option (Nat × Event) :=
  if s.pass.isNone then none else earliest? s.events

/-- What is due next while the scheduler has a pass under way. -/
def dueWhileBusy? (s : System) : Option (Nat × Event) :=
  match s.scheduler with
  | some { phase := .busy _, .. } => earliest? s.events
  | _ => none

theorem runEvents_eq_follow (fuel stop : Nat) (s : System) :
    runEvents fuel stop s = follow (dueBy? stop) fuel s := by
  induction fuel generalizing s with
  | zero => rfl
  | succ fuel ih =>
    rw [runEvents, follow, dueBy?]
    rcases earliest? s.events with _ | ⟨time, e⟩
    · rfl
    · -- what is due too late ends the loop, as if nothing were due
      by_cases h : time ≤ stop
      · simp only [Option.filter_some, h, decide_true, if_true]
        exact ih _
      · simp only [Option.filter_some, h, decide_false, if_false, Bool.false_eq_true]

theorem runToPassEnd_eq_follow (fuel : Nat) (s : System) :
    runToPassEnd fuel s = follow dueInPass? fuel s := by
  induction fuel generalizing s with
  | zero => rfl
  | succ fuel ih =>
    rw [runToPassEnd, follow, dueInPass?]
    split
    · rfl
    · rcases earliest? s.events with _ | ⟨time, e⟩
      · rfl
      · exact ih _

theorem runToIdle_eq_follow (fuel : Nat) (s : System) :
    runToIdle fuel s = follow dueWhileBusy? fuel s := by
  induction fuel generalizing s with
  | zero => rfl
  | succ fuel ih =>
    rw [runToIdle, follow, dueWhileBusy?]
    rcases s.scheduler with _ | ⟨period, next, queued, phase⟩
    · rfl
    · cases phase with
      | idle => rfl
      | failed => rfl
      | busy p =>
        dsimp only
        rcases earliest? s.events with _ | ⟨time, e⟩
        · rfl
        · exact ih _

theorem mem_of_earliest? {es : List (Nat × Event)} {x : Nat × Event} (h : earliest? es = some x) :
    x ∈ es := by
  induction es generalizing x with
  | nil => cases h
  | cons e es ih =>
    rw [earliest?] at h
    rcases hes : earliest? es with _ | f
    · rw [hes] at h
      rw [← Option.some.inj h]
      exact List.mem_cons_self ..
    · rw [hes] at h
      dsimp only at h
      split at h
      · rw [← Option.some.inj h]
        exact List.mem_cons_self ..
      · rw [← Option.some.inj h]
        exact List.mem_cons_of_mem _ (ih hes)

theorem exists_earliest? {es : List (Nat × Event)} (h : es ≠ []) : ∃ x, earliest? es = some x := by
  obtain ⟨e, es, rfl⟩ := List.exists_cons_of_ne_nil h
  rw [earliest?]
  rcases earliest? es with _ | x
  · exact ⟨e, rfl⟩
  · dsimp only
    split <;> exact ⟨_, rfl⟩

theorem le_of_earliest? {es : List (Nat × Event)} {x : Nat × Event} (h : earliest? es = some x) :
    ∀ y ∈ es, x.1 ≤ y.1 := by
  induction es generalizing x with
  | nil => cases h
  | cons e es ih =>
    intro y hy
    rw [earliest?] at h
    rcases hes : earliest? es with _ | z
    · -- nothing comes after it
      have hnil : es = [] := by
        cases es with
        | nil => rfl
        | cons f fs =>
          obtain ⟨z, hz⟩ := exists_earliest? (List.cons_ne_nil f fs)
          rw [hz] at hes
          cases hes
      rw [hes] at h
      rw [hnil, List.mem_singleton] at hy
      exact Nat.le_of_eq (by rw [hy, ← Option.some.inj h])
    · have hz := ih hes
      rw [hes] at h
      dsimp only at h
      split at h
      · rename_i hle
        rw [← Option.some.inj h]
        rcases List.mem_cons.mp hy with rfl | hy
        · exact Nat.le_refl _
        · exact Nat.le_trans hle (hz y hy)
      · rename_i hlt
        rw [← Option.some.inj h]
        rcases List.mem_cons.mp hy with rfl | hy
        · exact Nat.le_of_lt (Nat.lt_of_not_le hlt)
        · exact hz y hy

/-- What will be due is a step of the pass that was asked for directly, something that the scheduler
does, or a summary. -/
theorem mem_events_iff {s : System} {x : Nat × Event} : x ∈ s.events ↔
    (∃ p time, s.pass = some p ∧ p.due? s.engine.fetcher s.clock.timer = some time ∧
      x = (time, .pass p)) ∨
    (∃ sch time, s.scheduler = some sch ∧
      sch.due? s.engine.fetcher s.clock.timer = some time ∧ x = (time, .scheduler sch)) ∨
    ∃ r, s.reporter = some r ∧ x = (max s.clock.timer r.next, .reporter r) := by
  simp only [events, List.mem_append, Option.mem_toList, Option.bind_eq_some_iff,
    Option.map_eq_some_iff, or_assoc, exists_and_left, eq_comm (a := x)]

/-- A choice among what will be due. -/
def ChoosesEvent (next? : System → Option (Nat × Event)) : Prop :=
  ∀ s x, next? s = some x → x ∈ s.events

/-- A choice of what is due first, if anything. -/
def ChoosesFirst (next? : System → Option (Nat × Event)) : Prop :=
  ∀ s x, next? s = some x → earliest? s.events = some x

theorem ChoosesFirst.choosesEvent {next? : System → Option (Nat × Event)}
    (h : ChoosesFirst next?) : ChoosesEvent next? := fun s x hx => mem_of_earliest? (h s x hx)

theorem choosesFirst_dueBy? (stop : Nat) : ChoosesFirst (dueBy? stop) := by
  intro s x h
  exact (Option.filter_eq_some_iff.mp h).1

theorem choosesFirst_dueInPass? : ChoosesFirst dueInPass? := by
  intro s x h
  rw [dueInPass?] at h
  split at h
  · cases h
  · exact h

theorem choosesFirst_dueWhileBusy? : ChoosesFirst dueWhileBusy? := by
  intro s x h
  rw [dueWhileBusy?] at h
  split at h
  · exact h
  · cases h

theorem choosesEvent_dueBy? (stop : Nat) : ChoosesEvent (dueBy? stop) :=
  (choosesFirst_dueBy? stop).choosesEvent

theorem choosesEvent_dueInPass? : ChoosesEvent dueInPass? := choosesFirst_dueInPass?.choosesEvent

theorem choosesEvent_dueWhileBusy? : ChoosesEvent dueWhileBusy? :=
  choosesFirst_dueWhileBusy?.choosesEvent

/-- What every step preserves, a loop preserves. -/
theorem follow_induction {next? : System → Option (Nat × Event)} {P : System → Prop}
    (hnext : ChoosesEvent next?) (hstep : ∀ s, P s → ∀ x ∈ s.events, P (s.step x.1 x.2))
    (fuel : Nat) {s : System} (h : P s) : P (follow next? fuel s) := by
  induction fuel generalizing s with
  | zero => exact h
  | succ fuel ih =>
    rw [follow]
    rcases hs : next? s with _ | ⟨time, e⟩
    · exact h
    · exact ih (hstep s h _ (hnext s _ hs))

/-! ## What comes of the steps -/

/-- What the steps of a loop give, one after the other. -/
def gather {α : Type} (note : System → Nat → Event → List α)
    (next? : System → Option (Nat × Event)) : Nat → System → List α
  | 0, _ => []
  | fuel + 1, s =>
    match next? s with
    | some (time, e) => note s time e ++ gather note next? fuel (s.step time e)
    | none => []

/-- What every step of a loop preserves, together with what was given so far, the loop preserves. -/
theorem gather_induction {α : Type} {note : System → Nat → Event → List α}
    {next? : System → Option (Nat × Event)} {P : List α → System → Prop}
    (hstep : ∀ xs s, P xs s → ∀ e, next? s = some e → P (xs ++ note s e.1 e.2) (s.step e.1 e.2))
    (fuel : Nat) {xs : List α} {s : System} (h : P xs s) :
    P (xs ++ gather note next? fuel s) (follow next? fuel s) := by
  induction fuel generalizing xs s with
  | zero => rwa [gather, List.append_nil]
  | succ fuel ih =>
    rw [follow, gather]
    rcases hs : next? s with _ | ⟨time, e⟩
    · rwa [List.append_nil]
    · rw [← List.append_assoc]
      exact ih (hstep xs s h _ hs)

/-- What every step preserves that is due first, a loop preserves. -/
theorem follow_gather_induction {α : Type} {note : System → Nat → Event → List α}
    {next? : System → Option (Nat × Event)} {P : List α → System → Prop}
    (hnext : ChoosesFirst next?) (hstep : ∀ xs s, P xs s → ∀ e, earliest? s.events = some e →
      P (xs ++ note s e.1 e.2) (s.step e.1 e.2))
    (fuel : Nat) {xs : List α} {s : System} (h : P xs s) :
    P (xs ++ gather note next? fuel s) (follow next? fuel s) :=
  gather_induction (fun ys t ht e he => hstep ys t ht e (hnext t e he)) fuel h

end System

end AdFilter
