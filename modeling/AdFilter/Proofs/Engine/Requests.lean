import AdFilter.Proofs.Engine.Task

/-!
# Requests for a pass

One request can wait while the scheduler is at work, and no more are accepted then. `Account` keeps
the books of a run: each request that was accepted has been taken, and a pass begun for it, or still
waits; each pass that was begun has been completed and counted, or is under way. A step of any kind
keeps them balanced (`Task.IsAccounted.move`). `Task.requests_spec` reads off them that no request
is lost, none is served twice, and nothing is done after the stop, with one exception: if the clock
cannot tell when the next tick would be due, the scheduler fails, and the request it took is lost.
-/

namespace AdFilter

/-- How many passes are completed that are not those of the scheduler. -/
def TaskEvent.others : TaskEvent → Nat
  | .elsewhere n => n
  | _ => 0

def Scheduler.isBusy (sch : Scheduler) : Bool :=
  match sch.phase with
  | .busy _ => true
  | _ => false

namespace Scheduler

variable {sch : Scheduler} {now : Nat}

theorem isBusy_of_idle (h : sch.phase = .idle) : sch.isBusy = false := by rw [isBusy, h]

theorem hasFailed_of_idle (h : sch.phase = .idle) : sch.hasFailed = false := by rw [hasFailed, h]

/-- A scheduler that wakes waits for a tick, or fails for want of a period. -/
theorem phase_wake : (sch.wake now).phase = if sch.period = 0 then .failed else .idle := rfl

theorem isBusy_wake : (sch.wake now).isBusy = false := by
  rw [isBusy, phase_wake]
  by_cases hzero : sch.period = 0
  · rw [if_pos hzero]
  · rw [if_neg hzero]

theorem hasFailed_wake : (sch.wake now).hasFailed = decide (sch.period = 0) := by
  rw [hasFailed, phase_wake]
  by_cases hzero : sch.period = 0
  · rw [if_pos hzero, decide_eq_true hzero]
  · rw [if_neg hzero, decide_eq_false hzero]

/-- A request that is taken is not in the queue any more. The scheduler goes on, unless the clock
cannot tell the next tick. -/
theorem takeRequest_cases (sch : Scheduler) (now : Nat) :
    sch.takeRequest now = { sch with queued := false, next := now + sch.period } ∨
      (Toggle.endOfTime ≤ now + sch.period ∧
        sch.takeRequest now = { sch with queued := false, phase := .failed }) := by
  rw [takeRequest]
  split
  · exact Or.inl rfl
  · rename_i hlate
    exact Or.inr ⟨Nat.le_of_not_lt hlate, rfl⟩

/-- A request is accepted unless one waits already, or the scheduler has failed. -/
theorem trigger_cases (sch : Scheduler) :
    (sch.trigger = (false, sch) ∧ (sch.queued = true ∨ sch.hasFailed = true)) ∨
      (sch.trigger = (true, { sch with queued := true }) ∧ sch.queued = false ∧
        sch.hasFailed = false) := by
  rw [trigger]
  split
  · rename_i hrefused
    exact Or.inl ⟨rfl, Bool.or_eq_true .. ▸ hrefused⟩
  · rename_i haccepted
    rw [Bool.not_eq_true, Bool.or_eq_false_iff] at haccepted
    exact Or.inr ⟨rfl, haccepted⟩

end Scheduler

namespace TaskLog

variable {log : TaskLog} {time : Nat} {e : TaskEvent}

/-- How often something has happened. -/
def times (log : TaskLog) (e : TaskEvent) : Nat := (log.map Prod.snd).count e

/-- How many passes were begun. -/
def begun (log : TaskLog) : Nat := times log (.began true) + times log (.began false)

/-- How many passes were completed that are not those of the scheduler. -/
def others (log : TaskLog) : Nat := (log.map (·.2.others)).sum

/-- Whether after each request, accepted or not, a pass was begun that was asked for. -/
def IsServed : TaskLog → Prop
  | [] => True
  | a :: log => ((∃ accepted, a.2 = .asked accepted) → ∃ b ∈ log, b.2 = .began true) ∧ IsServed log

theorem times_concat (e' : TaskEvent) :
    times (log ++ [(time, e)]) e' = times log e' + if e = e' then 1 else 0 := by
  rw [times, List.map_append, List.count_append, List.map_singleton, List.count_singleton,
    ← times, beq_eq_decide]
  simp only [decide_eq_true_eq]

theorem others_concat : others (log ++ [(time, e)]) = others log + e.others := by
  rw [others, List.map_append, List.sum_append, ← others, List.map_singleton, List.sum_singleton]

theorem isServed_concat (h : IsServed log) (he : ∀ accepted, e ≠ .asked accepted) :
    IsServed (log ++ [(time, e)]) := by
  induction log with
  | nil =>
    refine ⟨?_, trivial⟩
    rintro ⟨accepted, ha⟩
    exact absurd ha (he accepted)
  | cons a log ih =>
    refine ⟨fun ha => ?_, ih h.2⟩
    obtain ⟨b, hb, hbegan⟩ := h.1 ha
    exact ⟨b, List.mem_append_left _ hb, hbegan⟩

/-- A pass that is asked for serves all requests before it. -/
theorem isServed_concat_began : IsServed (log ++ [(time, .began true)]) := by
  induction log with
  | nil =>
    refine ⟨?_, trivial⟩
    rintro ⟨_, ⟨⟩⟩
  | cons a log ih =>
    exact ⟨fun _ => ⟨_, List.mem_append_right _ (List.mem_singleton_self _), rfl⟩, ih⟩

end TaskLog

open TaskLog

/-! ## The books -/

/-- What is true of a run in which as many passes have been completed, while the scheduler has a
request waiting or not, is busy or not, and has failed or not. -/
structure Account (passes₀ period : Nat) (log : TaskLog) (passes : Nat)
    (queued busy failed : Bool) : Prop where
  accepted_eq : times log (.asked true) =
    times log (.began true) + queued.toNat + times log .failed
  begun_eq : begun log = times log .completed + busy.toNat
  passes_eq : passes = passes₀ + times log .completed + others log
  served : queued = true ∨ failed = true ∨ IsServed log
  failed_le : times log .failed ≤ failed.toNat
  failed_eq : 0 < period → times log .failed = failed.toNat
  late : ∀ a ∈ log, a.2 = .failed → Toggle.endOfTime ≤ a.1 + period

namespace Account

variable {passes₀ period passes passes' time : Nat} {log : TaskLog}
  {queued queued' busy busy' failed failed' : Bool}

theorem nil : Account passes₀ period [] passes₀ false false false where
  accepted_eq := rfl
  begun_eq := rfl
  passes_eq := rfl
  served := Or.inr (Or.inr trivial)
  failed_le := Nat.zero_le _
  failed_eq _ := rfl
  late _ h := absurd h List.not_mem_nil

/-- One event more. What it adds on one side it adds on the other. -/
theorem concat (h : Account passes₀ period log passes queued busy failed) {e : TaskEvent}
    (haccepted : queued.toNat + (if e = .asked true then 1 else 0) =
      queued'.toNat + (if e = .began true then 1 else 0) + if e = .failed then 1 else 0)
    (hbegun : busy.toNat + (if e = .began true then 1 else 0) +
      (if e = .began false then 1 else 0) = busy'.toNat + if e = .completed then 1 else 0)
    (hpasses : passes' = passes + (if e = .completed then 1 else 0) + e.others)
    (hserved : e = .began true ∨ queued' = true ∨ failed' = true ∨
      ((queued = true → queued' = true) ∧ (failed = true → failed' = true) ∧
        ∀ accepted, e ≠ .asked accepted))
    (hfailed : failed.toNat + (if e = .failed then 1 else 0) ≤ failed'.toNat)
    (hgoes : 0 < period → failed.toNat + (if e = .failed then 1 else 0) = failed'.toNat)
    (hlate : e = .failed → Toggle.endOfTime ≤ time + period) :
    Account passes₀ period (log ++ [(time, e)]) passes' queued' busy' failed' where
  accepted_eq := by
    have := h.accepted_eq
    simp only [times_concat]
    omega
  begun_eq := by
    have := h.begun_eq
    rw [begun] at this ⊢
    simp only [times_concat]
    omega
  passes_eq := by
    have := h.passes_eq
    simp only [times_concat, others_concat]
    omega
  served := by
    rcases hserved with rfl | hqueued | hfailed | ⟨hqueued, hfailed, he⟩
    · exact Or.inr (Or.inr isServed_concat_began)
    · exact Or.inl hqueued
    · exact Or.inr (Or.inl hfailed)
    · exact h.served.imp hqueued (Or.imp hfailed fun hserved => isServed_concat hserved he)
  failed_le := by
    have := h.failed_le
    rw [times_concat]
    omega
  failed_eq hperiod := by
    have := h.failed_eq hperiod
    have := hgoes hperiod
    rw [times_concat]
    omega
  late a ha hfails := by
    rcases List.mem_append.mp ha with ha | ha
    · exact h.late a ha hfails
    · obtain rfl := List.mem_singleton.mp ha
      exact hlate hfails

/-- An event that is neither a request nor a failure. A request waits on unless a pass is begun for
it. -/
theorem concat_of_ne (h : Account passes₀ period log passes queued busy failed) {e : TaskEvent}
    (hasked : ∀ accepted, e ≠ .asked accepted) (hfails : e ≠ .failed)
    (hqueued : queued.toNat = queued'.toNat + if e = .began true then 1 else 0)
    (hbegun : busy.toNat + (if e = .began true then 1 else 0) +
      (if e = .began false then 1 else 0) = busy'.toNat + if e = .completed then 1 else 0)
    (hpasses : passes' = passes + (if e = .completed then 1 else 0) + e.others) :
    Account passes₀ period (log ++ [(time, e)]) passes' queued' busy' failed := by
  refine h.concat ?_ hbegun hpasses ?_ ?_ (fun _ => ?_) fun he => absurd he hfails
  · rw [if_neg (hasked true), if_neg hfails]
    exact hqueued
  · by_cases hbegan : e = .began true
    · exact Or.inl hbegan
    · rw [if_neg hbegan, Nat.add_zero] at hqueued
      refine Or.inr (Or.inr (Or.inr ⟨fun hwaits => ?_, id, hasked⟩))
      rw [hwaits] at hqueued
      exact Bool.toNat_eq_one.mp hqueued.symm
  · rw [if_neg hfails, Nat.add_zero]
  · rw [if_neg hfails, Nat.add_zero]

/-- What is not the scheduler's own concern leaves the books as they are. -/
theorem aside (h : Account passes₀ period log passes queued busy failed) {e : TaskEvent}
    (he : e = .told ∨ e = .stopped ∨ ∃ n, e = .elsewhere n)
    (hpasses : passes' = passes + e.others) :
    Account passes₀ period (log ++ [(time, e)]) passes' queued busy failed := by
  rcases he with rfl | rfl | ⟨n, rfl⟩ <;>
    exact h.concat_of_ne (by rintro _ ⟨⟩) (by rintro ⟨⟩) rfl rfl hpasses

/-- A pass that is done is completed. -/
theorem ending (h : Account passes₀ period log passes queued true failed) (p : Pass) :
    Account passes₀ period (log ++ p.ending.map (time, ·)) (passes + p.ending.length) queued
      (!p.isDone) failed := by
  rw [Pass.ending]
  rcases p.isDone with _ | _
  · rw [if_neg Bool.false_ne_true, List.map_nil, List.append_nil]
    exact h
  · rw [if_pos rfl]
    exact h.concat_of_ne (by rintro _ ⟨⟩) (by decide) rfl rfl rfl

end Account

/-! ## Along a run -/

namespace Task

/-- The books of a run are kept, and no pass is under way before the first period or after the
end. -/
structure IsAccounted (s : System) (period : Nat) (log : TaskLog) (t : Task) (sch : Scheduler) :
    Prop where
  scheduler_eq : t.system.scheduler = some sch
  period_eq : sch.period = period
  starting : t.stage = .starting → sch.phase = .idle
  stopped : t.stage = .over → sch.isBusy = false
  account : Account s.passes period log t.system.passes sch.queued sch.isBusy sch.hasFailed

variable {s u : System} {period time : Nat} {log : TaskLog} {t t' : Task} {sch : Scheduler}
  {events : List TaskEvent} {stopping : Bool}

/-- The scheduler has a pass under way that may be done. -/
theorem IsAccounted.goOn {p : Pass} (hperiod : sch.period = period)
    (h : Account s.passes period log u.passes sch.queued true false) :
    ∃ sch', IsAccounted s period (log ++ p.ending.map ((u.goOn sch p).clock.timer, ·))
      ⟨u.goOn sch p, .running, stopping⟩ sch' := by
  obtain ⟨hscheduler, hpasses, -⟩ := System.goOn_frame u sch p
  refine ⟨_, hscheduler, hperiod, by rintro ⟨⟩, by rintro ⟨⟩, ?_⟩
  have hending : Account s.passes period (log ++ p.ending.map ((u.goOn sch p).clock.timer, ·))
      (u.goOn sch p).passes sch.queued (!p.isDone) false := by
    rw [hpasses]
    exact h.ending p
  rcases hdone : p.isDone with _ | _ <;> rw [hdone] at hending <;> exact hending

/-- A pass is begun at a tick, or because it was asked for. -/
theorem IsAccounted.begin {asked : Bool} {sch' : Scheduler}
    (h : Account s.passes period log u.passes sch.queued false false)
    (hperiod : sch'.period = period)
    (hqueued : sch.queued.toNat = sch'.queued.toNat + asked.toNat) :
    ∃ sch'', IsAccounted s period
      (log ++ (.began asked :: (Pass.start u.engine.fetcher).ending).map
        ((u.startScheduled sch').clock.timer, ·))
      ⟨u.startScheduled sch', .running, stopping⟩ sch'' := by
  rw [List.map_cons, List.append_cons, System.startScheduled_eq]
  refine goOn hperiod ?_
  rcases asked with _ | _ <;> exact h.concat_of_ne (by rintro _ ⟨⟩) (by decide) hqueued rfl rfl

theorem IsAccounted.move (h : t.IsAccounted s period log sch) (hmove : Move t events t') :
    ∃ sch', t'.IsAccounted s period (log ++ events.map (t'.system.clock.timer, ·)) sch' := by
  have haccount := h.account
  have hsame {sch' : Scheduler} (hsch : t.system.scheduler = some sch') : sch = sch' :=
    Option.some.inj (h.scheduler_eq.symm.trans hsch)
  cases hmove with
  | wake hsch =>
    obtain rfl := hsame hsch
    have hidle := h.starting rfl
    rw [Scheduler.isBusy_of_idle hidle, Scheduler.hasFailed_of_idle hidle] at haccount
    refine ⟨_, rfl, h.period_eq, by rintro ⟨⟩, by rintro ⟨⟩, ?_⟩
    rw [Scheduler.isBusy_wake, Scheduler.hasFailed_wake, h.period_eq]
    refine haccount.concat rfl rfl rfl
      (Or.inr (Or.inr (Or.inr ⟨id, by rintro ⟨⟩, by rintro _ ⟨⟩⟩)))
      (Nat.zero_le _) (fun hpos => ?_) (by rintro ⟨⟩)
    rw [decide_eq_false (Nat.ne_of_gt hpos)]
    rfl
  | @ask u u' accepted stage stopping hgoing htrigger =>
    rw [System.trigger_eq h.scheduler_eq] at htrigger
    obtain ⟨haccepted, rfl⟩ := Prod.mk.inj htrigger
    obtain rfl := Option.some.inj haccepted
    rcases sch.trigger_cases with ⟨hrefused, hwhy⟩ | ⟨haccepted, hqueued, hgoes⟩
    · rw [hrefused]
      refine ⟨sch, rfl, h.period_eq, h.starting, h.stopped, ?_⟩
      exact haccount.concat rfl rfl rfl (Or.inr (hwhy.imp id Or.inl)) (Nat.le_refl _)
        (fun _ => rfl) (by rintro ⟨⟩)
    · rw [haccepted]
      refine ⟨_, rfl, h.period_eq, h.starting, h.stopped, ?_⟩
      rw [hqueued] at haccount
      exact haccount.concat rfl rfl rfl (Or.inr (Or.inl rfl)) (Nat.le_refl _) (fun _ => rfl)
        (by rintro ⟨⟩)
  | tick hsch hidle hdue =>
    obtain rfl := hsame hsch
    rw [Scheduler.isBusy_of_idle hidle, Scheduler.hasFailed_of_idle hidle] at haccount
    exact begin haccount h.period_eq rfl
  | @take u sch' stopping hsch hidle hqueued hgoes =>
    obtain rfl := hsame hsch
    rw [Scheduler.isBusy_of_idle hidle, Scheduler.hasFailed_of_idle hidle] at haccount
    rcases sch.takeRequest_cases u.clock.timer with htake | ⟨-, htake⟩
    · rw [htake]
      exact begin haccount h.period_eq (by rw [hqueued]; rfl)
    · rw [htake] at hgoes
      cases hgoes
  | @fail u sch' stopping hsch hidle hqueued hfails =>
    obtain rfl := hsame hsch
    rw [Scheduler.isBusy_of_idle hidle, Scheduler.hasFailed_of_idle hidle, hqueued] at haccount
    rcases sch.takeRequest_cases u.clock.timer with htake | ⟨hlate, htake⟩
    · have hgoes : (sch.takeRequest u.clock.timer).hasFailed = false := by
        rw [htake]
        exact Scheduler.hasFailed_of_idle hidle
      rw [hgoes] at hfails
      cases hfails
    · rw [htake]
      refine ⟨_, rfl, h.period_eq, by rintro ⟨⟩, by rintro ⟨⟩, ?_⟩
      refine haccount.concat rfl rfl rfl (Or.inr (Or.inr (Or.inl rfl))) (Nat.le_refl _)
        (fun _ => rfl) fun _ => ?_
      rw [← h.period_eq]
      exact hlate
  | work hsch hbusy hmove =>
    obtain rfl := hsame hsch
    have hisBusy : sch.isBusy = true := by rw [Scheduler.isBusy, hbusy]
    have hhasFailed : sch.hasFailed = false := by rw [Scheduler.hasFailed, hbusy]
    rw [hisBusy, hhasFailed] at haccount
    exact goOn h.period_eq haccount
  | tell hgoing =>
    exact ⟨sch, h.scheduler_eq, h.period_eq, h.starting, h.stopped, haccount.aside (Or.inl rfl) rfl⟩
  | stop hsch hready =>
    obtain rfl := hsame hsch
    refine ⟨sch, h.scheduler_eq, h.period_eq, by rintro ⟨⟩, fun _ => ?_,
      haccount.aside (Or.inr (Or.inl rfl)) rfl⟩
    rw [Scheduler.isBusy]
    cases hphase : sch.phase with
    | idle => rfl
    | failed => rfl
    | busy p => exact absurd hphase (hready p)
  | other hleaves =>
    refine ⟨sch, hleaves.scheduler_eq.trans h.scheduler_eq, h.period_eq, h.starting, h.stopped, ?_⟩
    exact haccount.aside (Or.inr (Or.inr ⟨_, rfl⟩)) hleaves.passes_eq

theorem isAccounted_start (s : System) (period : Nat) :
    (start s period).IsAccounted s period [] { period := period, next := s.clock.timer } :=
  ⟨rfl, rfl, fun _ => rfl, fun _ => rfl, .nil⟩

/-- An engine without lists. -/
def resting : System :=
  System.build { sources := [] } { entries := [] } { pending := [], otherwise := .status 503 }
    { wall := fun t => t, steady := id }

/-- The same with a scheduler at work. -/
def restingWith (sch : Scheduler) : System := { resting with scheduler := some sch }

end Task

end AdFilter
