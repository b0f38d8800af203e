import AdFilter.Proofs.Engine.Loop
import AdFilter.Proofs.Fetch.Contribution

/-!
# Changes of the rules along the clock

Refresh passes bring rules in while time goes by. For a step, a loop and each operation that follows
the clock, a definition here collects the changes made to the rules in their order, and a lemma
says that the rules come about by these changes and by no others.
-/

namespace AdFilter

namespace System

/-! ## A step and a loop -/

/-- The changes that a step of a pass makes. -/
def passChanges (s : System) (p : Pass) : List RuleChange :=
  p.stepChanges s.engine.fetcher s.clock.moment s.stock

/-- The changes that the scheduler makes: those of the pass that it has under way. -/
def schedulerChanges (s : System) (sch : Scheduler) : List RuleChange :=
  match sch.phase with
  | .busy p => s.passChanges p
  | _ => []

/-- The changes that something makes at the time when it is due. -/
def stepChanges (s : System) (time : Nat) (e : Event) : List RuleChange :=
  let s := { s with clock := { s.clock with timer := time } }
  match e with
  | .pass p => s.passChanges p
  | .scheduler sch => s.schedulerChanges sch
  | .reporter _ => []

theorem stepPass_rules (s : System) (p : Pass) :
    (s.stepPass p).engine.rules = s.engine.rules.changeAll (s.passChanges p) := by
  have hrules := Pass.step_rules s.engine.fetcher s.clock.moment p s.stock
  rw [stepPass]
  rcases hp : p.step s.engine.fetcher s.clock.moment s.stock with ⟨q, st⟩
  rw [hp] at hrules
  dsimp only
  split <;> exact hrules

theorem startScheduled_rules (s : System) (sch : Scheduler) :
    (s.startScheduled sch).engine.rules = s.engine.rules := by
  rw [startScheduled]
  dsimp only
  split <;> rfl

theorem stepScheduler_rules (s : System) (sch : Scheduler) :
    (s.stepScheduler sch).engine.rules = s.engine.rules.changeAll (s.schedulerChanges sch) := by
  rw [stepScheduler, schedulerChanges]
  cases sch.phase with
  | failed => rfl
  | idle =>
    dsimp only
    split
    · exact startScheduled_rules s _
    · split
      · split
        · rfl
        · exact startScheduled_rules s _
      · rfl
  | busy p =>
    have hrules := Pass.step_rules s.engine.fetcher s.clock.moment p s.stock
    dsimp only
    rcases hp : p.step s.engine.fetcher s.clock.moment s.stock with ⟨q, st⟩
    rw [hp] at hrules
    dsimp only
    split <;> exact hrules

theorem step_rules (s : System) (time : Nat) (e : Event) :
    (s.step time e).engine.rules = s.engine.rules.changeAll (s.stepChanges time e) := by
  cases e with
  | pass p => exact stepPass_rules _ p
  | scheduler sch => exact stepScheduler_rules _ sch
  | reporter r => rfl

/-- The changes that a loop makes. -/
def followChanges (next? : System → Option (Nat × Event)) : Nat → System → List RuleChange
  | 0, _ => []
  | fuel + 1, s =>
    match next? s with
    | some (time, e) => s.stepChanges time e ++ followChanges next? fuel (s.step time e)
    | none => []

theorem follow_rules (next? : System → Option (Nat × Event)) (fuel : Nat) (s : System) :
    (follow next? fuel s).engine.rules =
      s.engine.rules.changeAll (followChanges next? fuel s) := by
  -- on the fuel; the changes of a step come before those of the rest of the loop
  induction fuel generalizing s with
  | zero => rfl
  | succ fuel ih =>
    rw [follow, followChanges]
    rcases next? s with _ | ⟨time, e⟩
    · rfl
    · dsimp only
      rw [ih, step_rules, RuleSet.changeAll_append]

/-! ## Operations -/

/-- A pass that was asked for directly, before its first step. -/
def beginPass (s : System) : System :=
  { s.deliver with pass := some (Pass.start s.deliver.engine.fetcher) }

/-- The rules are there but for those of the remote lists. -/
def load (s : System) : System :=
  let loaded := s.deliver.engine.hydrateRules s.deliver.clock.date s.deliver.files
  { s.deliver with engine := loaded.1, files := loaded.2 }

/-- How many steps a pass that was asked for directly can take. -/
def passFuel (s : System) : Nat :=
  s.deliver.stepsWithin (longestJob * s.deliver.engine.fetcher.sources.length)

theorem refresh_eq (s : System) :
    s.refresh =
      if (Pass.start s.deliver.engine.fetcher).isDone then
        s.deliver.finishPass (Pass.start s.deliver.engine.fetcher)
      else follow dueInPass? s.passFuel s.beginPass := by
  rw [refresh]
  simp only [runToPassEnd_eq_follow]
  rfl

theorem hydrate_eq (s : System) : s.hydrate = s.load.refresh := rfl

/-- The domains in the user's file of overrides, made if it is not there. -/
def overridesRead (s : System) : List (List Char) :=
  (Engine.readOverrides s.deliver.engine.overrideFile s.deliver.clock.date s.deliver.files).2

/-- The changes that a pass makes that was asked for directly. -/
def refreshChanges (s : System) : List RuleChange :=
  if (Pass.start s.deliver.engine.fetcher).isDone then []
  else followChanges dueInPass? s.passFuel s.beginPass

/-- The changes that bring in the user's overrides and the broader built-in rules. -/
def loadChanges (s : System) : List RuleChange :=
  [.apply ⟨s.overridesRead, []⟩, .apply ⟨BuiltIn.baselineDomains, BuiltIn.baselinePatterns⟩]

/-- The changes that are made up to a time. -/
def runUntilChanges (s : System) (stop : Nat) : List RuleChange :=
  followChanges (dueBy? stop) (s.stepsWithin (stop - s.clock.timer)) s.deliver

/-- The changes that a pass under way makes before the scheduler stops. -/
def stopChanges (s : System) : List RuleChange := followChanges dueWhileBusy? s.passFuel s.deliver

@[simp] theorem deliver_rules (s : System) : s.deliver.engine.rules = s.engine.rules := by
  rw [deliver]
  rcases s.engine.logger with _ | l <;> rfl

theorem refresh_rules (s : System) :
    s.refresh.engine.rules = s.engine.rules.changeAll s.refreshChanges := by
  rw [refresh_eq, refreshChanges]
  split
  · exact deliver_rules s
  · rw [follow_rules]
    exact congrArg (RuleSet.changeAll · _) (deliver_rules s)

theorem load_rules (s : System) :
    s.load.engine.rules = s.engine.rules.changeAll s.loadChanges := by
  -- the two batches stay folded: they are too large to be compared by computing them
  rw [load, loadChanges, Engine.hydrateRules, Engine.baselineBatch]
  simp only [RuleSet.changeAll_cons, RuleSet.changeAll_nil, RuleSet.change, deliver_rules]
  rfl

theorem runUntil_rules (s : System) (stop : Nat) :
    (s.runUntil stop).engine.rules = s.engine.rules.changeAll (s.runUntilChanges stop) := by
  rw [runUntil, runUntilChanges, ← deliver_rules s, ← follow_rules, ← runEvents_eq_follow]

theorem stopScheduler_rules (s : System) :
    s.stopScheduler.engine.rules = s.engine.rules.changeAll s.stopChanges := by
  rw [stopScheduler, stopChanges, ← deliver_rules s, ← follow_rules, ← runToIdle_eq_follow]
  rfl

/-! ## Where changes come from -/

end System

/-- Whether a change brings in a list as the engine does by itself: the broader built-in rules, what
is read from the user's overrides, or the text of a remote list. -/
def RuleChange.IsLoad (c : RuleChange) : Prop :=
  c = .apply ⟨BuiltIn.baselineDomains, BuiltIn.baselinePatterns⟩ ∨
    ∃ text, c = .apply ⟨overrideDomains text, []⟩ ∨ c = .apply (FilterList.ofText text)

namespace System

variable {s : System} {c : RuleChange}

theorem isLoad_of_mem_passChanges {p : Pass} (h : c ∈ s.passChanges p) : c.IsLoad := by
  rw [passChanges, Pass.stepChanges, Option.mem_toList, Option.map_eq_some_iff] at h
  obtain ⟨text, -, rfl⟩ := h
  exact Or.inr ⟨text, Or.inr rfl⟩

theorem isLoad_of_mem_stepChanges {time : Nat} {e : Event} (h : c ∈ s.stepChanges time e) :
    c.IsLoad := by
  cases e with
  | pass p => exact isLoad_of_mem_passChanges h
  | scheduler sch =>
    have h : c ∈ schedulerChanges { s with clock := { s.clock with timer := time } } sch := h
    rw [schedulerChanges] at h
    cases hphase : sch.phase with
    | idle =>
      rw [hphase] at h
      cases h
    | failed =>
      rw [hphase] at h
      cases h
    | busy p =>
      rw [hphase] at h
      exact isLoad_of_mem_passChanges h
  | reporter r => cases h

theorem isLoad_of_mem_followChanges {next? : System → Option (Nat × Event)} {fuel : Nat}
    (h : c ∈ followChanges next? fuel s) : c.IsLoad := by
  induction fuel generalizing s with
  | zero => cases h
  | succ fuel ih =>
    rw [followChanges] at h
    rcases hnext : next? s with _ | ⟨time, e⟩
    · rw [hnext] at h
      cases h
    · rw [hnext] at h
      rcases List.mem_append.mp h with h | h
      · exact isLoad_of_mem_stepChanges h
      · exact ih h

theorem isLoad_of_mem_refreshChanges (h : c ∈ s.refreshChanges) : c.IsLoad := by
  rw [refreshChanges] at h
  split at h
  · cases h
  · exact isLoad_of_mem_followChanges h

theorem isLoad_of_mem_loadChanges (h : c ∈ s.loadChanges) : c.IsLoad := by
  rcases List.mem_cons.mp h with rfl | h
  · rw [overridesRead, Engine.readOverrides]
    -- a file of overrides that cannot be read counts as an empty one
    generalize Files.readText? _ _ = read
    rcases read with _ | text
    · exact Or.inr ⟨[], Or.inl rfl⟩
    · exact Or.inr ⟨text, Or.inl rfl⟩
  · exact Or.inl (List.mem_singleton.mp h)

end System

end AdFilter
