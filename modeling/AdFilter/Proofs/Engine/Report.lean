import AdFilter.Proofs.Engine.Frame
import AdFilter.Proofs.Fetch.Run

/-!
# What passes report, and the files that they change

Passes that were asked for directly and those of the scheduler work on the same files, and they may
be under way at the same time. `System.ledger` collects what all passes report of single lists in
the course of some operations. `System.performAll_leads` is the account of the files: one in the
cache is another afterwards only if it was written first for another, or if a pass has reported its
list as downloaded.
-/

namespace AdFilter

/-- What a pass reports of a list, and whether the pass is the scheduler's. -/
structure Report where
  scheduled : Bool
  status : SourceStatus
deriving DecidableEq

/-! ## States that can come about -/

/-- Whether a pass over the lists of a fetcher is under way. -/
structure Pass.IsUnderWay (f : Fetcher) (p : Pass) : Prop where
  isOf : p.IsOf f
  isDone_eq : p.isDone = false

theorem Pass.isUnderWay_start {f : Fetcher} (h : (Pass.start f).isDone = false) :
    (Pass.start f).IsUnderWay f := ⟨Pass.isOf_start f, h⟩

/-- What holds of a scheduler at any time. -/
structure Scheduler.IsRegular (f : Fetcher) (now : Nat) (sch : Scheduler) : Prop where
  period_pos : sch.hasFailed = false → 0 < sch.period
  next_le : sch.next ≤ now + sch.period
  pass : ∀ p, sch.phase = .busy p → p.IsUnderWay f

theorem Scheduler.isRegular_start (f : Fetcher) (period now : Nat) :
    (Scheduler.start period now).IsRegular f now := by
  rw [Scheduler.start]
  refine ⟨fun hfailed => ?_, Nat.le_refl _, fun p hp => ?_⟩
  · by_contra hzero
    rw [Scheduler.hasFailed, if_pos (Nat.eq_zero_of_not_pos hzero)] at hfailed
    cases hfailed
  · dsimp only at hp
    split at hp <;> cases hp

theorem Scheduler.IsRegular.trigger {f : Fetcher} {now : Nat} {sch : Scheduler}
    (h : sch.IsRegular f now) : sch.trigger.2.IsRegular f now := by
  rw [Scheduler.trigger]
  split
  · exact h
  · exact ⟨h.period_pos, h.next_le, h.pass⟩

namespace System

/-- What holds of a system at any time. -/
structure IsRegular (s : System) : Prop where
  isTree : s.files.IsTree
  pass : ∀ p, s.pass = some p → p.IsUnderWay s.engine.fetcher
  scheduler : ∀ sch, s.scheduler = some sch →
    sch.IsRegular s.engine.fetcher s.clock.timer
  interval_pos : ∀ r, s.reporter = some r → 0 < r.interval

@[simp] theorem stock_files (s : System) : s.stock.files = s.files := rfl

@[simp] theorem stock_web (s : System) : s.stock.web = s.web := rfl

@[simp] theorem stock_rules (s : System) : s.stock.rules = s.engine.rules := rfl

/-- From one state to another the engine goes over the same lists, and only the files at some places
may become others. -/
structure Leads (s t : System) (changed : Place → Prop) : Prop where
  isRegular : t.IsRegular
  fetcher_eq : t.engine.fetcher = s.engine.fetcher
  overrideFile_eq : t.engine.overrideFile = s.engine.overrideFile
  grows : s.files.Grows t.files changed

namespace Leads

variable {s t u : System} {changed : Place → Prop}

theorem refl (hs : s.IsRegular) : s.Leads s changed := ⟨hs, rfl, rfl, Files.Grows.refl hs.isTree⟩

theorem trans (hst : s.Leads t changed) (htu : t.Leads u changed) : s.Leads u changed :=
  ⟨htu.isRegular, htu.fetcher_eq.trans hst.fetcher_eq,
    htu.overrideFile_eq.trans hst.overrideFile_eq, hst.grows.trans htu.grows⟩

theorem mono {others : Place → Prop} (h : s.Leads t changed) (hplaces : ∀ r, changed r → others r) :
    s.Leads t others :=
  ⟨h.isRegular, h.fetcher_eq, h.overrideFile_eq, h.grows.mono hplaces⟩

/-- A state with the same lists, files and passes is as good. -/
theorem of_eq (hs : s.IsRegular) (hfetcher : t.engine.fetcher = s.engine.fetcher)
    (hoverride : t.engine.overrideFile = s.engine.overrideFile) (hfiles : t.files = s.files)
    (hpass : t.pass = s.pass) (hscheduler : t.scheduler = s.scheduler)
    (htimer : s.clock.timer ≤ t.clock.timer) (hreporter : t.reporter = s.reporter) :
    s.Leads t changed := by
  refine ⟨⟨?_, ?_, ?_, ?_⟩, hfetcher, hoverride, ?_⟩
  · rw [hfiles]
    exact hs.isTree
  · rw [hpass, hfetcher]
    exact hs.pass
  · intro sch hsch
    rw [hscheduler] at hsch
    have hold := hs.scheduler sch hsch
    rw [hfetcher]
    exact ⟨hold.period_pos, Nat.le_trans hold.next_le (Nat.add_le_add_right htimer _), hold.pass⟩
  · rw [hreporter]
    exact hs.interval_pos
  · rw [hfiles]
    exact Files.Grows.refl hs.isTree

end Leads

variable {s : System}

/-! ## A step -/

/-- What a step of a pass reports. -/
def passEnded (s : System) (p : Pass) : List SourceStatus :=
  p.ended (p.step s.engine.fetcher s.clock.moment s.stock).1

/-- What is reported by what is done at the time when it is due. -/
def stepReports (s : System) (time : Nat) (e : Event) : List Report :=
  let s := { s with clock := { s.clock with timer := time } }
  match e with
  | .pass p => (s.passEnded p).map (⟨false, ·⟩)
  | .scheduler sch =>
    match sch.phase with
    | .busy p => (s.passEnded p).map (⟨true, ·⟩)
    | _ => []
  | .reporter _ => []

/-- Whether the file at a place may be another after some reports. -/
def MayChange (s : System) (reports : List Report) (r : Place) : Prop :=
  Pass.MayChange s.engine.fetcher s.files (reports.map (·.status)) r

theorem MayChange.mono {reports others : List Report} (h : reports ⊆ others) {r : Place}
    (hr : s.MayChange reports r) : s.MayChange others r :=
  Pass.MayChange.mono (List.map_subset _ h) hr

theorem Leads.mayChange {t : System} {changed : Place → Prop} (h : s.Leads t changed)
    {reports : List Report} {r : Place} (hr : t.MayChange reports r) : s.MayChange reports r := by
  rw [MayChange, h.fetcher_eq] at hr
  exact hr.congr h.grows.home_eq

theorem move_leads (hs : s.IsRegular) {p : Pass} (hp : p.IsUnderWay s.engine.fetcher) :
    (p.step s.engine.fetcher s.clock.moment s.stock).1.IsOf s.engine.fetcher ∧
      s.files.Grows (p.step s.engine.fetcher s.clock.moment s.stock).2.files
        (Pass.MayChange s.engine.fetcher s.files (s.passEnded p)) := by
  obtain ⟨made, hmove⟩ := Pass.step_move hp.isDone_eq (f := s.engine.fetcher) s.clock.moment s.stock
  exact ⟨hmove.isOf hp.isOf, hmove.grows hs.isTree hp.isOf⟩

theorem stepPass_leads (hs : s.IsRegular) {p : Pass} (hp : p.IsUnderWay s.engine.fetcher) :
    s.Leads (s.stepPass p) (Pass.MayChange s.engine.fetcher s.files (s.passEnded p)) := by
  obtain ⟨hof, hgrows⟩ := move_leads hs hp
  rw [stepPass]
  rcases hnext : p.step s.engine.fetcher s.clock.moment s.stock with ⟨q, st⟩
  rw [hnext] at hof hgrows
  dsimp only
  split
  · refine ⟨⟨hgrows.isTree, fun q' hq' => ?_, hs.scheduler, hs.interval_pos⟩, rfl, rfl, hgrows⟩
    cases hq'
  · rename_i hdone
    refine ⟨⟨hgrows.isTree, fun q' hq' => ?_, hs.scheduler, hs.interval_pos⟩, rfl, rfl, hgrows⟩
    cases hq'
    exact ⟨hof, Bool.not_eq_true _ ▸ hdone⟩

theorem startScheduled_leads (hs : s.IsRegular) {changed : Place → Prop} {sch : Scheduler}
    (hperiod : 0 < sch.period) (hnext : sch.next ≤ s.clock.timer + sch.period) :
    s.Leads (s.startScheduled sch) changed := by
  rw [startScheduled]
  dsimp only
  split
  · refine ⟨⟨hs.isTree, hs.pass, fun c hc => ?_, hs.interval_pos⟩, rfl, rfl,
      Files.Grows.refl hs.isTree⟩
    cases hc
    exact ⟨fun _ => hperiod, hnext, fun q hq => by cases hq⟩
  · rename_i hdone
    refine ⟨⟨hs.isTree, hs.pass, fun c hc => ?_, hs.interval_pos⟩, rfl, rfl,
      Files.Grows.refl hs.isTree⟩
    cases hc
    refine ⟨fun _ => hperiod, hnext, fun q hq => ?_⟩
    cases hq
    exact Pass.isUnderWay_start (Bool.not_eq_true _ ▸ hdone)

theorem stepScheduler_leads (hs : s.IsRegular) {sch : Scheduler} (hsch : s.scheduler = some sch) :
    s.Leads (s.stepScheduler sch) (Pass.MayChange s.engine.fetcher s.files
      (match sch.phase with | .busy p => s.passEnded p | _ => [])) := by
  have hregular := hs.scheduler sch hsch
  rw [stepScheduler]
  cases hphase : sch.phase with
  | failed => exact Leads.refl hs
  | busy p =>
    obtain ⟨hof, hgrows⟩ := move_leads hs (hregular.pass p hphase)
    have hperiod : 0 < sch.period := hregular.period_pos (by rw [Scheduler.hasFailed, hphase])
    dsimp only
    rcases hnext : p.step s.engine.fetcher s.clock.moment s.stock with ⟨q, st⟩
    rw [hnext] at hof hgrows
    dsimp only
    split
    · refine ⟨⟨hgrows.isTree, hs.pass, fun c hc => ?_, hs.interval_pos⟩, rfl, rfl, hgrows⟩
      cases hc
      exact ⟨fun _ => hperiod, hregular.next_le, fun q hq => by cases hq⟩
    · rename_i hdone
      refine ⟨⟨hgrows.isTree, hs.pass, fun c hc => ?_, hs.interval_pos⟩, rfl, rfl, hgrows⟩
      cases hc
      refine ⟨fun _ => hperiod, hregular.next_le, fun q hq => ?_⟩
      cases hq
      exact ⟨hof, Bool.not_eq_true _ ▸ hdone⟩
  | idle =>
    have hperiod : 0 < sch.period := hregular.period_pos (by rw [Scheduler.hasFailed, hphase])
    dsimp only
    split
    · rename_i hdue
      exact startScheduled_leads hs hperiod (Nat.add_le_add_right hdue _)
    · split
      · rw [Scheduler.takeRequest]
        split
        · split
          · rename_i hfailed
            rw [Scheduler.hasFailed, hphase] at hfailed
            cases hfailed
          · exact startScheduled_leads hs hperiod (Nat.le_refl _)
        · -- the clock cannot tell the next tick
          show s.Leads { s with scheduler := some ⟨sch.period, sch.next, false, .failed⟩ } _
          refine ⟨⟨hs.isTree, hs.pass, fun c hc => ?_, hs.interval_pos⟩, rfl, rfl,
            Files.Grows.refl hs.isTree⟩
          cases hc
          exact ⟨fun h => (by cases h), hregular.next_le, fun q hq => (by cases hq)⟩
      · exact Leads.refl hs

/-- What is done when it is due changes no files but those of lists that are reported as
downloaded. -/
theorem step_leads (hs : s.IsRegular) {x : Nat × Event} (hx : x ∈ s.events) :
    s.Leads (s.step x.1 x.2) (s.MayChange (s.stepReports x.1 x.2)) := by
  obtain ⟨time, e⟩ := x
  -- first the clock goes to the time when the event is due
  have hwait : s.Leads { s with clock := { s.clock with timer := time } }
      (s.MayChange (s.stepReports time e)) :=
    Leads.of_eq hs rfl rfl rfl rfl rfl (le_of_mem_events hx) rfl
  refine hwait.trans ?_
  have hstatuses : ∀ (b : Bool) (xs : List SourceStatus),
      (xs.map (Report.mk b)).map (·.status) = xs := by
    intro b xs
    rw [List.map_map]
    exact List.map_id xs
  rcases mem_events_iff.mp hx with ⟨p, d, hp, -, heq⟩ | ⟨sch, d, hsch, -, heq⟩ | ⟨r, hr, heq⟩
  · cases heq
    refine (stepPass_leads hwait.isRegular (hwait.isRegular.pass p hp)).mono fun q hq => ?_
    rw [MayChange, stepReports, hstatuses]
    exact hq
  · cases heq
    refine (stepScheduler_leads hwait.isRegular hsch).mono fun q hq => ?_
    rw [MayChange, stepReports]
    cases hphase : sch.phase with
    | busy p =>
      rw [hphase] at hq
      dsimp only
      rw [hstatuses]
      exact hq
    | idle =>
      rw [hphase] at hq
      exact hq
    | failed =>
      rw [hphase] at hq
      exact hq
  · cases heq
    refine ⟨⟨hwait.isRegular.isTree, hs.pass, hwait.isRegular.scheduler, fun r' hr' => ?_⟩, rfl,
      rfl, Files.Grows.refl hs.isTree⟩
    cases hr'
    exact hs.interval_pos r hr

/-! ## A loop -/

/-- What is reported in a loop. -/
def followReports (next? : System → Option (Nat × Event)) : Nat → System → List Report
  | 0, _ => []
  | fuel + 1, s =>
    match next? s with
    | some (time, e) => s.stepReports time e ++ followReports next? fuel (s.step time e)
    | none => []

theorem follow_leads {next? : System → Option (Nat × Event)} (hnext : ChoosesEvent next?)
    (fuel : Nat) (hs : s.IsRegular) :
    s.Leads (s.follow next? fuel) (s.MayChange (s.followReports next? fuel)) := by
  -- on the fuel; what may change by the reports of a step may change by those of the loop
  induction fuel generalizing s with
  | zero => exact Leads.refl hs
  | succ fuel ih =>
    rw [follow, followReports]
    rcases hdue : next? s with _ | ⟨time, e⟩
    · exact Leads.refl hs
    · dsimp only
      have hstep := step_leads hs (hnext s _ hdue)
      refine (hstep.mono fun r hr => hr.mono (List.subset_append_left _ _)).trans ?_
      refine (ih hstep.isRegular).mono fun r hr => ?_
      exact (hstep.mayChange hr).mono (List.subset_append_right _ _)

/-! ## Operations -/

/-- What is reported in a pass that was asked for directly, by this pass and by those of the
scheduler. -/
def refreshReports (s : System) : List Report :=
  if (Pass.start s.deliver.engine.fetcher).isDone then []
  else followReports dueInPass? s.passFuel s.beginPass

/-- What an operation reports. -/
def reports (s : System) : Operation → List Report
  | .hydrate => s.load.refreshReports
  | .refresh => s.refreshReports
  | .advance duration =>
    followReports (dueBy? (s.clock.timer + duration)) (s.stepsWithin
      (s.clock.timer + duration - s.clock.timer)) s.deliver
  | .stopScheduler => followReports dueWhileBusy? s.passFuel s.deliver
  | _ => []

/-- What operations report, one after the other. -/
def ledger (s : System) : List Operation → List Report
  | [] => []
  | op :: ops => s.reports op ++ (s.perform op).ledger ops

/-- To let the log deliver changes nothing that a pass works with. -/
theorem deliver_frame (s : System) : s.deliver.stock = s.stock ∧
    s.deliver.engine.fetcher = s.engine.fetcher ∧ s.deliver.clock = s.clock ∧
    s.deliver.scheduler = s.scheduler ∧ s.deliver.reporter = s.reporter ∧
    s.deliver.pass = s.pass ∧ s.deliver.engine.overrideFile = s.engine.overrideFile := by
  rw [deliver]
  rcases s.engine.logger with _ | l <;> exact ⟨rfl, rfl, rfl, rfl, rfl, rfl, rfl⟩

theorem deliver_leads (hs : s.IsRegular) (changed : Place → Prop) : s.Leads s.deliver changed := by
  obtain ⟨hstock, hfetcher, hclock, hscheduler, hreporter, hpass, hoverride⟩ := deliver_frame s
  exact Leads.of_eq hs hfetcher hoverride (congrArg Stock.files hstock) hpass hscheduler
    (Nat.le_of_eq (congrArg Clock.timer hclock).symm) hreporter

theorem beginPass_leads (hs : s.IsRegular) (changed : Place → Prop)
    (hdone : ¬ (Pass.start s.deliver.engine.fetcher).isDone = true) :
    s.Leads s.beginPass changed := by
  have hdeliver := deliver_leads hs changed
  refine ⟨⟨hdeliver.isRegular.isTree, fun p hp => ?_, hdeliver.isRegular.scheduler,
    hdeliver.isRegular.interval_pos⟩, hdeliver.fetcher_eq, hdeliver.overrideFile_eq, hdeliver.grows⟩
  cases hp
  exact Pass.isUnderWay_start (Bool.not_eq_true _ ▸ hdone)

/-- A refresh changes no files but those of lists that are reported as downloaded. -/
theorem refresh_leads (hs : s.IsRegular) : s.Leads s.refresh (s.MayChange s.refreshReports) := by
  rw [refresh_eq, refreshReports]
  split
  · have hdeliver := deliver_leads hs (s.MayChange [])
    exact hdeliver.trans (Leads.of_eq hdeliver.isRegular rfl rfl rfl rfl rfl (Nat.le_refl _) rfl)
  · rename_i hdone
    have hbegin := beginPass_leads hs
      (s.MayChange (followReports dueInPass? s.passFuel s.beginPass)) hdone
    refine hbegin.trans ((follow_leads choosesEvent_dueInPass? _ hbegin.isRegular).mono ?_)
    exact fun r hr => hbegin.mayChange hr

end System

/-- To read the overrides may make their file, and changes no file that is there. -/
theorem Engine.readOverrides_grows {files : Files} (hf : files.IsTree) (path : List Char)
    (now : Int) : files.Grows (Engine.readOverrides path now files).1
      (fun r => r = files.placeOf path ∧ files.fileAt? r = none) := by
  rw [Engine.readOverrides]
  dsimp only
  split
  · exact Files.Grows.refl hf
  · rename_i hmissing
    rcases hwrite : files.write? now path (.text BuiltIn.overrideTemplate) with _ | g
    · exact Files.Grows.refl hf
    · refine (Files.write?_grows hf hwrite).1.mono fun r hr => ⟨hr, ?_⟩
      obtain ⟨p, hp, -, -⟩ := Files.write?_eq_some_iff.mp hwrite
      rw [Files.stat?, hp, Option.bind_eq_bind, Option.bind_some, Option.not_isSome_iff_eq_none]
        at hmissing
      rw [hr, ← Files.eq_placeOf_of_locate? hp, Files.fileAt?, hmissing]

namespace System

variable {s : System}

/-- Whether a place is that of the user's overrides, and there is no file yet. -/
def IsMissing (s : System) (r : Place) : Prop :=
  r = s.files.placeOf s.engine.overrideFile ∧ s.files.fileAt? r = none

/-- To bring in the first rules changes the rules, and the files as it does to read the overrides.
-/
theorem load_frame (s : System) : s.load.engine.fetcher = s.engine.fetcher ∧
    s.load.engine.overrideFile = s.engine.overrideFile ∧ s.load.clock = s.clock ∧
    s.load.scheduler = s.scheduler ∧ s.load.reporter = s.reporter ∧ s.load.pass = s.pass ∧
    s.load.web = s.web ∧
    s.load.files = (Engine.readOverrides s.engine.overrideFile s.clock.date s.files).1 := by
  obtain ⟨hstock, hfetcher, hclock, hscheduler, hreporter, hpass, hoverride⟩ := deliver_frame s
  have hfiles : s.deliver.files = s.files := congrArg Stock.files hstock
  have hweb : s.deliver.web = s.web := congrArg Stock.web hstock
  rw [load, Engine.hydrateRules]
  refine ⟨hfetcher, hoverride, hclock, hscheduler, hreporter, hpass, hweb, ?_⟩
  dsimp only
  rw [hclock, hfiles, hoverride]

theorem load_leads (hs : s.IsRegular) : s.Leads s.load s.IsMissing := by
  obtain ⟨hfetcher, hoverride, hclock, hscheduler, hreporter, hpass, -, hfiles⟩ := load_frame s
  have hgrows : s.files.Grows s.load.files s.IsMissing := by
    rw [hfiles]
    exact Engine.readOverrides_grows hs.isTree _ _
  refine ⟨⟨hgrows.isTree, ?_, ?_, ?_⟩, hfetcher, hoverride, hgrows⟩
  · rw [hpass, hfetcher]
    exact hs.pass
  · rw [hscheduler, hfetcher, hclock]
    exact hs.scheduler
  · rw [hreporter]
    exact hs.interval_pos

end System

/-- Whether the files that an operation puts in place are such as can be. -/
def Operation.IsRegular (op : Operation) : Prop :=
  match op with
  | .surround files _ => files.IsTree
  | _ => True

/-- Whether an operation leaves it to the engine what becomes of the files. -/
def Operation.LeavesFiles (op : Operation) : Prop :=
  match op with
  | .surround _ _ => False
  | _ => True

namespace System

variable {s : System}

/-- The account of the files of an operation. -/
theorem perform_leads (hs : s.IsRegular) {op : Operation} (hop : op.LeavesFiles) :
    s.Leads (s.perform op) fun r => s.MayChange (s.reports op) r ∨ s.IsMissing r := by
  -- most operations do not touch the files at all
  have hsame : ∀ t : System, t.engine.fetcher = s.engine.fetcher →
      t.engine.overrideFile = s.engine.overrideFile → t.files = s.files → t.pass = s.pass →
      t.scheduler = s.scheduler → t.clock = s.clock → t.reporter = s.reporter →
      s.Leads t fun r => s.MayChange (s.reports op) r ∨ s.IsMissing r :=
    fun t h₁ h₂ h₃ h₄ h₅ h₆ h₇ => Leads.of_eq hs h₁ h₂ h₃ h₄ h₅ (h₆ ▸ Nat.le_refl _) h₇
  cases op with
  | change c => exact hsame _ rfl rfl rfl rfl rfl rfl rfl
  | hydrate =>
    have hload := load_leads hs
    refine (hload.mono fun r hr => Or.inr hr).trans ?_
    exact (refresh_leads hload.isRegular).mono fun r hr => Or.inl (hload.mayChange hr)
  | refresh => exact (refresh_leads hs).mono fun r hr => Or.inl hr
  | setEnabled on => exact hsame _ rfl rfl rfl rfl rfl rfl rfl
  | pauseFor duration =>
    rw [perform, pauseFor]
    rcases s.engine.toggle.pauseFor s.clock.now duration with e | t
    · exact Leads.refl hs
    · exact hsame _ rfl rfl rfl rfl rfl rfl rfl
  | resume => exact hsame _ rfl rfl rfl rfl rfl rfl rfl
  | check url => exact hsame _ rfl rfl rfl rfl rfl rfl rfl
  | navigate url => exact hsame _ rfl rfl rfl rfl rfl rfl rfl
  | advance duration =>
    have hdeliver := deliver_leads hs (fun r =>
      s.MayChange (s.reports (.advance duration)) r ∨ s.IsMissing r)
    refine hdeliver.trans ?_
    rw [perform, runUntil, runEvents_eq_follow]
    have hloop := (follow_leads (choosesEvent_dueBy? (s.clock.timer + duration)) (s.stepsWithin
      (s.clock.timer + duration - s.clock.timer)) hdeliver.isRegular).mono
        fun r hr => Or.inl (b := s.IsMissing r) (hdeliver.mayChange hr)
    exact hloop.trans (Leads.of_eq hloop.isRegular rfl rfl rfl rfl rfl (Nat.le_max_left _ _) rfl)
  | startScheduler period =>
    have hdeliver := deliver_leads hs (fun r =>
      s.MayChange (s.reports (.startScheduler period)) r ∨ s.IsMissing r)
    obtain ⟨-, -, hclock, -⟩ := deliver_frame s
    refine hdeliver.trans ⟨⟨hdeliver.isRegular.isTree, hdeliver.isRegular.pass, fun c hc => ?_,
      hdeliver.isRegular.interval_pos⟩, rfl, rfl, Files.Grows.refl hdeliver.isRegular.isTree⟩
    cases hc
    have htimer : (s.startScheduler period).clock.timer = s.clock.timer :=
      congrArg Clock.timer hclock
    rw [perform, htimer]
    exact Scheduler.isRegular_start _ _ _
  | trigger =>
    rw [perform, trigger]
    rcases hsch : s.scheduler with _ | sch
    · exact Leads.refl hs
    · refine ⟨⟨hs.isTree, hs.pass, fun c hc => ?_, hs.interval_pos⟩, rfl, rfl,
        Files.Grows.refl hs.isTree⟩
      cases hc
      exact (hs.scheduler sch hsch).trigger
  | stopScheduler =>
    have hdeliver := deliver_leads hs (fun r =>
      s.MayChange (s.reports .stopScheduler) r ∨ s.IsMissing r)
    refine hdeliver.trans ?_
    rw [perform, stopScheduler, runToIdle_eq_follow]
    have hloop := (follow_leads choosesEvent_dueWhileBusy? s.passFuel hdeliver.isRegular).mono
        fun r hr => Or.inl (b := s.IsMissing r) (hdeliver.mayChange hr)
    refine hloop.trans ⟨⟨hloop.isRegular.isTree, hloop.isRegular.pass, fun c hc => ?_,
      hloop.isRegular.interval_pos⟩, rfl, rfl, Files.Grows.refl hloop.isRegular.isTree⟩
    cases hc
  | surround files web => cases hop

theorem isRegular_perform (hs : s.IsRegular) {op : Operation} (hop : op.IsRegular) :
    (s.perform op).IsRegular := by
  by_cases hfiles : op.LeavesFiles
  · exact (perform_leads hs hfiles).isRegular
  · cases op with
    | surround files web => exact ⟨hop, hs.pass, hs.scheduler, hs.interval_pos⟩
    | _ => exact absurd trivial hfiles

/-! ## Runs -/

theorem isRegular_build {settings : Settings} {files : Files} {web : Web} {clock : Clock}
    {logger : Option Logger} {reporter : Option Reporter} (hfiles : files.IsTree)
    (hreporter : ∀ r, reporter = some r → 0 < r.interval) :
    (build settings files web clock logger reporter).IsRegular := by
  refine ⟨hfiles, fun p hp => ?_, fun sch hsch => ?_, hreporter⟩
  · cases hp
  · cases hsch

theorem isRegular_performAll {ops : List Operation} (hs : s.IsRegular)
    (hops : ∀ op ∈ ops, op.IsRegular) : (s.performAll ops).IsRegular := by
  induction ops generalizing s with
  | nil => exact hs
  | cons op ops ih =>
    exact ih (isRegular_perform hs (hops op (List.mem_cons_self ..)))
      fun e he => hops e (List.mem_cons_of_mem _ he)

/-- The account of the files: what is in the cache changes only by downloads that are reported. -/
theorem performAll_leads {ops : List Operation} (hs : s.IsRegular)
    (hops : ∀ op ∈ ops, op.LeavesFiles) : s.Leads (s.performAll ops) fun r =>
      s.MayChange (s.ledger ops) r ∨ r = s.files.placeOf s.engine.overrideFile := by
  induction ops generalizing s with
  | nil => exact Leads.refl hs
  | cons op ops ih =>
    have hop := perform_leads hs (hops op (List.mem_cons_self ..))
    refine (hop.mono ?_).trans ((ih hop.isRegular fun e he =>
      hops e (List.mem_cons_of_mem _ he)).mono ?_)
    · exact fun r hr => hr.imp (·.mono (List.subset_append_left _ _)) (·.1)
    · intro r hr
      refine hr.imp (fun h => (hop.mayChange h).mono (List.subset_append_right _ _)) fun h => ?_
      rw [h, hop.overrideFile_eq, Files.placeOf_congr hop.grows.home_eq]

end System

end AdFilter
