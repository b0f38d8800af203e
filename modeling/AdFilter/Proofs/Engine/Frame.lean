import AdFilter.Proofs.Engine.Operation

/-!
# What goes on by itself

While time goes by, passes are made and summaries shown, nothing touches the switch of blocking and
the clock does not go back. `System.Continues` says so of two states, and holds from before to
after each step, each loop and each operation but those that are there to move the switch.
-/

namespace AdFilter

/-! ## Nothing is due in the past -/

theorem Pass.le_due? {p : Pass} {f : Fetcher} {now time : Nat} (h : p.due? f now = some time) :
    now ≤ time := by
  rw [Pass.due?] at h
  split at h
  · cases h
    exact Nat.le_refl _
  · obtain ⟨⟨j, rest⟩, -, rfl⟩ := Option.map_eq_some_iff.mp h
    exact Nat.le_max_left _ _

theorem Scheduler.le_due? {s : Scheduler} {f : Fetcher} {now time : Nat}
    (h : s.due? f now = some time) : now ≤ time := by
  rw [Scheduler.due?] at h
  cases hphase : s.phase with
  | failed =>
    rw [hphase] at h
    cases h
  | busy p =>
    rw [hphase] at h
    exact Pass.le_due? h
  | idle =>
    rw [hphase] at h
    cases h
    split
    · exact Nat.le_refl _
    · exact Nat.le_max_left _ _

namespace System

theorem le_of_mem_events {s : System} {x : Nat × Event} (h : x ∈ s.events) :
    s.clock.timer ≤ x.1 := by
  simp only [events, List.mem_append, Option.mem_toList] at h
  rcases h with (h | h) | h
  · obtain ⟨p, -, h⟩ := Option.bind_eq_some_iff.mp h
    obtain ⟨time, htime, rfl⟩ := Option.map_eq_some_iff.mp h
    exact Pass.le_due? htime
  · obtain ⟨sch, -, h⟩ := Option.bind_eq_some_iff.mp h
    obtain ⟨time, htime, rfl⟩ := Option.map_eq_some_iff.mp h
    exact Scheduler.le_due? htime
  · obtain ⟨r, -, rfl⟩ := Option.map_eq_some_iff.mp h
    exact Nat.le_max_left _ _

/-! ## Going on -/

/-- From one state to another the switch stays as it is, and time goes on by the same clock. -/
structure Continues (s t : System) : Prop where
  toggle_eq : t.engine.toggle = s.engine.toggle
  steady_eq : t.clock.steady = s.clock.steady
  timer_le : s.clock.timer ≤ t.clock.timer

namespace Continues

variable {s t u : System}

theorem refl (s : System) : s.Continues s := ⟨rfl, rfl, Nat.le_refl _⟩

theorem trans (hst : s.Continues t) (htu : t.Continues u) : s.Continues u :=
  ⟨htu.toggle_eq.trans hst.toggle_eq, htu.steady_eq.trans hst.steady_eq,
    Nat.le_trans hst.timer_le htu.timer_le⟩

theorem deliver (s : System) : s.Continues s.deliver := by
  rw [System.deliver]
  rcases s.engine.logger with _ | l <;> exact ⟨rfl, rfl, Nat.le_refl _⟩

theorem stepPass (s : System) (p : Pass) : s.Continues (s.stepPass p) := by
  rw [System.stepPass]
  rcases p.step s.engine.fetcher s.clock.moment s.stock with ⟨q, st⟩
  dsimp only
  split <;> exact ⟨rfl, rfl, Nat.le_refl _⟩

theorem startScheduled (s : System) (sch : Scheduler) : s.Continues (s.startScheduled sch) := by
  rw [System.startScheduled]
  dsimp only
  split <;> exact ⟨rfl, rfl, Nat.le_refl _⟩

theorem stepScheduler (s : System) (sch : Scheduler) : s.Continues (s.stepScheduler sch) := by
  rw [System.stepScheduler]
  cases sch.phase with
  | failed => exact refl s
  | busy p =>
    dsimp only
    rcases p.step s.engine.fetcher s.clock.moment s.stock with ⟨q, st⟩
    dsimp only
    split <;> exact ⟨rfl, rfl, Nat.le_refl _⟩
  | idle =>
    dsimp only
    split
    · exact startScheduled s _
    · split
      · split
        · exact ⟨rfl, rfl, Nat.le_refl _⟩
        · exact startScheduled s _
      · exact refl s

theorem step {x : Nat × Event} (h : x ∈ s.events) : s.Continues (s.step x.1 x.2) := by
  obtain ⟨time, e⟩ := x
  -- first the clock goes to the time when the event is due, which is not in the past
  have hclock : s.Continues { s with clock := { s.clock with timer := time } } :=
    ⟨rfl, rfl, le_of_mem_events h⟩
  cases e with
  | pass p => exact hclock.trans (stepPass _ p)
  | scheduler sch => exact hclock.trans (stepScheduler _ sch)
  | reporter r => exact hclock.trans ⟨rfl, rfl, Nat.le_refl _⟩

theorem follow {next? : System → Option (Nat × Event)} (hnext : ChoosesEvent next?) (fuel : Nat)
    (s : System) : s.Continues (s.follow next? fuel) :=
  follow_induction (P := s.Continues) hnext (fun _ ht _ hx => ht.trans (step hx)) fuel (refl s)

/-! ## Operations -/

theorem refresh (s : System) : s.Continues s.refresh := by
  rw [refresh_eq]
  split
  · exact (deliver s).trans ⟨rfl, rfl, Nat.le_refl _⟩
  · have hbegin : s.Continues s.beginPass := (deliver s).trans ⟨rfl, rfl, Nat.le_refl _⟩
    exact hbegin.trans (follow choosesEvent_dueInPass? _ _)

theorem load (s : System) : s.Continues s.load := by
  refine (deliver s).trans ?_
  -- only rules and files change; to see it, the batch of built-in rules need not be computed
  rw [System.load, Engine.hydrateRules]
  dsimp only
  exact ⟨rfl, rfl, Nat.le_refl _⟩

theorem hydrate (s : System) : s.Continues s.hydrate := by
  rw [hydrate_eq]
  exact (load s).trans (refresh _)

theorem runUntil (s : System) (stop : Nat) : s.Continues (s.runUntil stop) := by
  rw [System.runUntil, runEvents_eq_follow]
  dsimp only
  have hloop := follow (choosesEvent_dueBy? stop) (s.stepsWithin (stop - s.clock.timer)) s.deliver
  exact ((deliver s).trans hloop).trans ⟨rfl, rfl, Nat.le_max_left _ _⟩

theorem stopScheduler (s : System) : s.Continues s.stopScheduler := by
  rw [System.stopScheduler, runToIdle_eq_follow]
  have hloop := follow choosesEvent_dueWhileBusy? s.passFuel s.deliver
  exact ((deliver s).trans hloop).trans ⟨rfl, rfl, Nat.le_refl _⟩

theorem trigger (s : System) : s.Continues s.trigger.2 := by
  rw [System.trigger]
  rcases s.scheduler with _ | sch <;> exact ⟨rfl, rfl, Nat.le_refl _⟩

end Continues

end System

end AdFilter
