import AdFilter.Proofs.Engine.Course

/-!
# The scheduler as a task

`System.step` makes the choices of the scheduler in one way: a tick that is due comes before a
request that waits, and of all that goes on by the clock, what is due first is done first. Here the
scheduler is a task of its own, beside which anything else may happen at any time. `Task.Move` lists
what may come next, and where more than one thing is ready, any of them may. `Task.Run` collects
what happens, and when.

What the library does is among the runs (`Task.Reaches.step`, `Task.Reaches.perform`).
-/

namespace AdFilter

/-- How far the task of a scheduler has come. -/
inductive TaskStage where
  /-- its first period has not begun -/
  | starting
  | running
  /-- it was stopped -/
  | over
deriving Repr, DecidableEq

/-- What happens to a scheduler. -/
inductive TaskEvent where
  /-- the first period begins -/
  | woke
  /-- it is asked for a pass, and accepts or does not -/
  | asked (accepted : Bool)
  /-- it begins a pass, at a tick or because it was asked to -/
  | began (asked : Bool)
  /-- its pass is completed, and counted -/
  | completed
  /-- it takes a request, and fails: the clock cannot tell the next tick -/
  | failed
  /-- it is told to stop -/
  | told
  /-- it stops -/
  | stopped
  /-- passes are completed that are not its own -/
  | elsewhere (passes : Nat)
deriving Repr, DecidableEq

/-- What happens to a scheduler, and when, in the order in which it happens. -/
abbrev TaskLog := List (Nat × TaskEvent)

/-- A scheduler at work, and what is around it. -/
structure Task where
  system : System
  stage : TaskStage := .starting
  /-- whether it was told to stop -/
  stopping : Bool := false

/-- The end of a pass, if it has come. -/
def Pass.ending (p : Pass) : List TaskEvent := if p.isDone then [.completed] else []

/-- The first period begins. Requests may wait already. -/
def Scheduler.wake (sch : Scheduler) (now : Nat) : Scheduler :=
  { Scheduler.start sch.period now with queued := sch.queued }

namespace System

/-- How many passes were completed. -/
def passes (s : System) : Nat := s.engine.counters.passes

/-- From one state to another the scheduler is left alone. Time may go by, and some passes may be
completed that are not its own. -/
structure LeavesScheduler (s : System) (n : Nat) (t : System) : Prop where
  scheduler_eq : t.scheduler = s.scheduler
  timer_le : s.clock.timer ≤ t.clock.timer
  passes_eq : t.passes = s.passes + n

/-- The scheduler has a pass under way, unless it is done. -/
def goOn (s : System) (sch : Scheduler) (p : Pass) : System :=
  if p.isDone then { s.finishPass p with scheduler := some { sch with phase := .idle } }
  else { s with scheduler := some { sch with phase := .busy p } }

end System

namespace Task

/-- A scheduler that has just been set up. -/
def start (s : System) (period : Nat) : Task where
  system := { s with scheduler := some { period := period, next := s.clock.timer } }

/-- What may come next. -/
inductive Move : Task → List TaskEvent → Task → Prop
  | wake {s sch stopping} (scheduler_eq : s.scheduler = some sch) :
      Move ⟨s, .starting, stopping⟩ [.woke]
        ⟨{ s with scheduler := some (sch.wake s.clock.timer) }, .running, stopping⟩
  /-- a request comes, whatever the scheduler is doing -/
  | ask {s s' accepted stage stopping} (going : stage ≠ .over)
      (trigger_eq : s.trigger = (some accepted, s')) :
      Move ⟨s, stage, stopping⟩ [.asked accepted] ⟨s', stage, stopping⟩
  | tick {s sch stopping} (scheduler_eq : s.scheduler = some sch) (idle : sch.phase = .idle)
      (due : sch.next ≤ s.clock.timer) :
      Move ⟨s, .running, stopping⟩ (.began false :: (Pass.start s.engine.fetcher).ending)
        ⟨s.startScheduled sch.takeTick, .running, stopping⟩
  /-- the request that waits is taken -/
  | take {s sch stopping} (scheduler_eq : s.scheduler = some sch) (idle : sch.phase = .idle)
      (queued : sch.queued = true) (goes : (sch.takeRequest s.clock.timer).hasFailed = false) :
      Move ⟨s, .running, stopping⟩ (.began true :: (Pass.start s.engine.fetcher).ending)
        ⟨s.startScheduled (sch.takeRequest s.clock.timer), .running, stopping⟩
  | fail {s sch stopping} (scheduler_eq : s.scheduler = some sch) (idle : sch.phase = .idle)
      (queued : sch.queued = true) (fails : (sch.takeRequest s.clock.timer).hasFailed = true) :
      Move ⟨s, .running, stopping⟩ [.failed]
        ⟨{ s with scheduler := some (sch.takeRequest s.clock.timer) }, .running, stopping⟩
  /-- the pass that is under way makes a step -/
  | work {s sch p made q st stopping} (scheduler_eq : s.scheduler = some sch)
      (busy : sch.phase = .busy p)
      (move : Pass.Move s.engine.fetcher s.clock.moment p s.stock made q st) :
      Move ⟨s, .running, stopping⟩ q.ending ⟨(s.withStock st).goOn sch q, .running, stopping⟩
  /-- the scheduler is told to stop, whatever it is doing -/
  | tell {s stage} (going : stage ≠ .over) : Move ⟨s, stage, false⟩ [.told] ⟨s, stage, true⟩
  /-- it stops when no pass is under way -/
  | stop {s sch} (scheduler_eq : s.scheduler = some sch) (ready : ∀ p, sch.phase ≠ .busy p) :
      Move ⟨s, .running, true⟩ [.stopped] ⟨s, .over, true⟩
  /-- something else happens, and time may go by -/
  | other {s s' n stage stopping} (leaves : s.LeavesScheduler n s') :
      Move ⟨s, stage, stopping⟩ [.elsewhere n] ⟨s', stage, stopping⟩

/-- A run of a scheduler, with what has happened so far. -/
inductive Run (t₀ : Task) : TaskLog → Task → Prop
  | start : Run t₀ [] t₀
  | move {log t events t'} (run : Run t₀ log t) (move : Move t events t') :
      Run t₀ (log ++ events.map (t'.system.clock.timer, ·)) t'

end Task

/-! ## What comes of a step -/

/-- Where something is due in a pass, it is not done. -/
theorem Pass.isDone_eq_false_of_due? {p : Pass} {f : Fetcher} {now time : Nat}
    (h : p.due? f now = some time) : p.isDone = false := by
  obtain ⟨waiting, running, finished⟩ := p
  rcases waiting with _ | ⟨x, waiting⟩
  · rcases running with _ | ⟨j, running⟩
    · cases h
    · rfl
  · rfl

namespace System

variable {s t : System} {sch : Scheduler} {p : Pass} {n : Nat}

theorem startScheduled_eq (s : System) (sch : Scheduler) :
    s.startScheduled sch = s.goOn sch (Pass.start s.engine.fetcher) := rfl

theorem stepScheduler_eq_goOn (hphase : sch.phase = .busy p) :
    let next := p.step s.engine.fetcher s.clock.moment s.stock
    s.stepScheduler sch = (s.withStock next.2).goOn sch next.1 := by
  rw [stepScheduler, hphase]
  rfl

theorem trigger_eq (hsch : s.scheduler = some sch) :
    s.trigger = (some sch.trigger.1, { s with scheduler := some sch.trigger.2 }) := by
  rw [trigger, hsch]

theorem goOn_frame (s : System) (sch : Scheduler) (p : Pass) :
    (s.goOn sch p).scheduler = some { sch with phase := if p.isDone then .idle else .busy p } ∧
      (s.goOn sch p).passes = s.passes + p.ending.length ∧ (s.goOn sch p).clock = s.clock := by
  rw [goOn, Pass.ending]
  split <;> exact ⟨rfl, rfl, rfl⟩

namespace LeavesScheduler

theorem deliver (s : System) : s.LeavesScheduler 0 s.deliver := by
  rw [System.deliver]
  rcases s.engine.logger with _ | l <;> exact ⟨rfl, Nat.le_refl _, rfl⟩

theorem load (s : System) : s.LeavesScheduler 0 s.load := by
  obtain ⟨-, -, hclock, hscheduler, -⟩ := load_frame s
  refine ⟨hscheduler, Nat.le_of_eq (congrArg Clock.timer hclock).symm, ?_⟩
  have hpasses : s.deliver.engine.counters.passes = s.passes := (deliver s).passes_eq
  -- the batch of built-in rules need not be computed
  rw [passes, System.load, Engine.hydrateRules]
  dsimp only
  exact hpasses

theorem stepPass (s : System) (p : Pass) : ∃ n, s.LeavesScheduler n (s.stepPass p) := by
  rw [System.stepPass]
  dsimp only
  split
  · exact ⟨1, rfl, Nat.le_refl _, rfl⟩
  · exact ⟨0, rfl, Nat.le_refl _, rfl⟩

theorem check (s : System) (url : List Char) : s.LeavesScheduler 0 (s.check url).2 := by
  refine ⟨rfl, Nat.le_refl _, ?_⟩
  rw [System.check, Engine.check]
  dsimp only
  rcases s.engine.decide? s.clock.now url with _ | r <;> rfl

theorem navigate (s : System) (url : List Char) : s.LeavesScheduler 0 (s.navigate url).2 := by
  refine ⟨rfl, Nat.le_refl _, ?_⟩
  rw [System.navigate, Engine.navigate, Counters.countNavigation]
  dsimp only
  split <;> rfl

end LeavesScheduler

end System

/-! ## What the library does is among the runs -/

/-- Whether an operation neither starts nor stops a scheduler. -/
def Operation.KeepsScheduler (op : Operation) : Prop :=
  match op with
  | .startScheduler _ | .stopScheduler => False
  | _ => True

namespace Task

/-- Whether a run leads from one state to another. -/
def Reaches (t₀ t : Task) : Prop := ∃ log, Run t₀ log t

namespace Reaches

variable {t₀ t t' : Task} {s u : System} {stage : TaskStage} {stopping : Bool} {n : Nat}

theorem refl (t : Task) : t.Reaches t := ⟨[], .start⟩

theorem move {events : List TaskEvent} (h : t₀.Reaches t) (hmove : Move t events t') :
    t₀.Reaches t' := by
  obtain ⟨log, hrun⟩ := h
  exact ⟨_, hrun.move hmove⟩

theorem other (h : t₀.Reaches ⟨s, stage, stopping⟩) (hs : s.LeavesScheduler n u) :
    t₀.Reaches ⟨u, stage, stopping⟩ := h.move (.other hs)

/-- When the library starts a scheduler, its first period begins at once. -/
theorem startScheduler (s : System) (period : Nat) :
    (start s period).Reaches ⟨s.startScheduler period, .running, false⟩ := by
  have hdeliver := System.LeavesScheduler.deliver s
  have hwake := (refl (start s period)).move (.wake rfl)
  exact hwake.other (n := 0) ⟨rfl, hdeliver.timer_le, hdeliver.passes_eq⟩

theorem stepScheduler (h : t₀.Reaches ⟨s, .running, stopping⟩) {sch : Scheduler}
    (hsch : s.scheduler = some sch) (hbusy : ∀ p, sch.phase = .busy p → p.isDone = false) :
    t₀.Reaches ⟨s.stepScheduler sch, .running, stopping⟩ := by
  cases hphase : sch.phase with
  | failed =>
    rw [System.stepScheduler, hphase]
    exact h
  | busy p =>
    obtain ⟨made, hmove⟩ :=
      Pass.step_move (hbusy p hphase) (f := s.engine.fetcher) s.clock.moment s.stock
    rw [System.stepScheduler_eq_goOn hphase]
    exact h.move (.work hsch hphase hmove)
  | idle =>
    rw [System.stepScheduler, hphase]
    dsimp only
    split
    · rename_i hdue
      exact h.move (.tick hsch hphase hdue)
    · split
      · rename_i hqueued
        split
        · rename_i hfails
          exact h.move (.fail hsch hphase hqueued hfails)
        · rename_i hgoes
          exact h.move (.take hsch hphase hqueued (Bool.not_eq_true _ ▸ hgoes))
      · exact h

/-- Whatever is due may come next. -/
theorem step (h : t₀.Reaches ⟨s, .running, stopping⟩) {x : Nat × System.Event} (hx : x ∈ s.events) :
    t₀.Reaches ⟨s.step x.1 x.2, .running, stopping⟩ := by
  have hclock : s.LeavesScheduler 0 { s with clock := { s.clock with timer := x.1 } } :=
    ⟨rfl, System.le_of_mem_events hx, rfl⟩
  rcases System.mem_events_iff.mp hx with ⟨p, time, -, -, rfl⟩ | ⟨sch, time, hsch, hdue, rfl⟩ |
      ⟨r, -, rfl⟩
  · obtain ⟨n, hpass⟩ := System.LeavesScheduler.stepPass
      { s with clock := { s.clock with timer := time } } p
    exact (h.other hclock).other hpass
  · refine (h.other hclock).stepScheduler hsch fun p hphase => ?_
    rw [Scheduler.due?, hphase] at hdue
    exact Pass.isDone_eq_false_of_due? hdue
  · refine (h.other hclock).other (n := 0) ?_
    exact ⟨rfl, Nat.le_refl _, rfl⟩

theorem follow {next? : System → Option (Nat × System.Event)} (hnext : System.ChoosesEvent next?)
    (fuel : Nat) (h : t₀.Reaches ⟨s, .running, stopping⟩) :
    t₀.Reaches ⟨s.follow next? fuel, .running, stopping⟩ :=
  System.follow_induction (P := fun u => t₀.Reaches ⟨u, .running, stopping⟩) hnext
    (fun _ hu _ hx => hu.step hx) fuel h

theorem refresh (h : t₀.Reaches ⟨s, .running, stopping⟩) :
    t₀.Reaches ⟨s.refresh, .running, stopping⟩ := by
  have hdeliver := h.other (.deliver s)
  rw [System.refresh_eq]
  split
  · exact hdeliver.other (n := 1) ⟨rfl, Nat.le_refl _, rfl⟩
  · have hbegin : s.deliver.LeavesScheduler 0 s.beginPass := ⟨rfl, Nat.le_refl _, rfl⟩
    exact (hdeliver.other hbegin).follow System.choosesEvent_dueInPass? _

/-- Whatever the library is asked to do is a run, but for what begins and ends one. -/
theorem perform (h : t₀.Reaches ⟨s, .running, stopping⟩) {op : Operation}
    (hop : op.KeepsScheduler) : t₀.Reaches ⟨s.perform op, .running, stopping⟩ := by
  have hsame {u : System} (hscheduler : u.scheduler = s.scheduler) (hclock : u.clock = s.clock)
      (hpasses : u.passes = s.passes) : t₀.Reaches ⟨u, .running, stopping⟩ :=
    h.other (n := 0) ⟨hscheduler, Nat.le_of_eq (congrArg Clock.timer hclock).symm, hpasses⟩
  cases op with
  | change c => exact hsame rfl rfl rfl
  | hydrate => exact (h.other (.load s)).refresh
  | refresh => exact h.refresh
  | setEnabled on => exact hsame rfl rfl rfl
  | pauseFor duration =>
    rw [System.perform, System.pauseFor]
    rcases s.engine.toggle.pauseFor s.clock.now duration with e | toggle
    · exact h
    · exact hsame rfl rfl rfl
  | resume => exact hsame rfl rfl rfl
  | check url => exact h.other (.check s url)
  | navigate url => exact h.other (.navigate s url)
  | advance duration =>
    rw [System.perform, System.runUntil, System.runEvents_eq_follow]
    have hloop := (h.other (.deliver s)).follow
      (System.choosesEvent_dueBy? (s.clock.timer + duration))
      (s.stepsWithin (s.clock.timer + duration - s.clock.timer))
    exact hloop.other (n := 0) ⟨rfl, Nat.le_max_left _ _, rfl⟩
  | trigger =>
    rw [System.perform]
    rcases hsch : s.scheduler with _ | sch
    · rw [System.trigger, hsch]
      exact h
    · rw [System.trigger_eq hsch]
      exact h.move (.ask (by decide) (System.trigger_eq hsch))
  | surround files web => exact hsame rfl rfl rfl
  | startScheduler period => cases hop
  | stopScheduler => cases hop

/-- To stop the scheduler is to tell it, and to go on until no pass of it is under way. -/
theorem stopScheduler (h : t₀.Reaches ⟨s, .running, false⟩) {sch : Scheduler}
    (hsch : (s.deliver.follow System.dueWhileBusy? s.passFuel).scheduler = some sch)
    (hready : ∀ p, sch.phase ≠ .busy p) :
    ∃ u, t₀.Reaches ⟨u, .over, true⟩ ∧ s.stopScheduler = { u with scheduler := none } := by
  have htold := (h.move (.tell (by decide))).other (.deliver s)
  have hloop := htold.follow System.choosesEvent_dueWhileBusy? s.passFuel
  refine ⟨_, hloop.move (.stop hsch hready), ?_⟩
  rw [System.stopScheduler, System.runToIdle_eq_follow]
  rfl

end Reaches

end Task

end AdFilter
