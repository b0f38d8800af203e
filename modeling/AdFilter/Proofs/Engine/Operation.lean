import AdFilter.Proofs.Engine.Change

/-!
# Runs of the engine

`Operation` lists what can happen to an engine and what is around it, and `System.performAll` lets
any number of operations happen, one after the other. Beside the run goes its history:
`System.history` collects the changes that the operations make to the rules, those of refresh
passes included, and `System.performAll_rules` says that the rules come about by them.
-/

namespace AdFilter

/-- What can happen to the engine and what is around it. -/
inductive Operation where
  /-- the rules are changed by hand -/
  | change (c : RuleChange)
  | hydrate
  | refresh
  | setEnabled (on : Bool)
  | pauseFor (duration : Nat)
  | resume
  | check (url : List Char)
  | navigate (url : List Char)
  /-- time goes by -/
  | advance (duration : Nat)
  | startScheduler (period : Nat)
  | trigger
  | stopScheduler
  /-- files and network become others -/
  | surround (files : Files) (web : Web)

namespace System

/-- The engine that settings describe, with nothing under way. -/
def build (settings : Settings) (files : Files) (web : Web) (clock : Clock)
    (logger : Option Logger := none) (reporter : Option Reporter := none) : System where
  engine := Engine.build settings files logger
  files := files
  web := web
  clock := clock
  reporter := reporter

/-- The change by which an engine comes to its first rules. -/
def firstChange : RuleChange := .apply ⟨BuiltIn.criticalDomains, BuiltIn.criticalPatterns⟩

theorem build_rules (settings : Settings) (files : Files) (web : Web) (clock : Clock)
    (logger : Option Logger) (reporter : Option Reporter) :
    (build settings files web clock logger reporter).engine.rules =
      ({} : RuleSet).changeAll [firstChange] := by
  rw [build, Engine.build, Engine.criticalBatch]
  rfl

/-- Whether requests are blocked now: blocking is on and does not pause. -/
def isActive (s : System) : Bool := s.engine.toggle.isActive s.clock.now

/-- Changes the rules by hand. -/
def change (s : System) (c : RuleChange) : System :=
  { s with engine := { s.engine with rules := s.engine.rules.change c } }

def withToggle (s : System) (t : Toggle) : System :=
  { s with engine := { s.engine with toggle := t } }

/-- Pauses blocking, if the pause has an end that the clock can tell. -/
def pauseFor (s : System) (duration : Nat) : System :=
  match s.engine.toggle.pauseFor s.clock.now duration with
  | .ok t => s.withToggle t
  | .error _ => s

/-- Lets an operation happen. -/
def perform (s : System) : Operation → System
  | .change c => s.change c
  | .hydrate => s.hydrate
  | .refresh => s.refresh
  | .setEnabled on => s.setEnabled on
  | .pauseFor duration => s.pauseFor duration
  | .resume => s.withToggle s.engine.toggle.resume
  | .check url => (s.check url).2
  | .navigate url => (s.navigate url).2
  | .advance duration => s.runUntil (s.clock.timer + duration)
  | .startScheduler period => s.startScheduler period
  | .trigger => s.trigger.2
  | .stopScheduler => s.stopScheduler
  | .surround files web => { s with files := files, web := web }

/-- Lets operations happen, one after the other. -/
def performAll (s : System) (ops : List Operation) : System := ops.foldl perform s

@[simp] theorem performAll_nil (s : System) : s.performAll [] = s := rfl

@[simp] theorem performAll_cons (s : System) (op : Operation) (ops : List Operation) :
    s.performAll (op :: ops) = (s.perform op).performAll ops := rfl

/-- The changes that an operation makes to the rules. -/
def changes (s : System) : Operation → List RuleChange
  | .change c => [c]
  | .hydrate => s.loadChanges ++ s.load.refreshChanges
  | .refresh => s.refreshChanges
  | .advance duration => s.runUntilChanges (s.clock.timer + duration)
  | .stopScheduler => s.stopChanges
  | _ => []

/-- The changes that operations make to the rules. -/
def history (s : System) : List Operation → List RuleChange
  | [] => []
  | op :: ops => s.changes op ++ (s.perform op).history ops

theorem perform_rules (s : System) (op : Operation) :
    (s.perform op).engine.rules = s.engine.rules.changeAll (s.changes op) := by
  cases op with
  | change c => rfl
  | hydrate =>
    rw [perform, changes, hydrate_eq, refresh_rules, load_rules, RuleSet.changeAll_append]
  | refresh => exact refresh_rules s
  | setEnabled on => rfl
  | pauseFor duration =>
    rw [perform, pauseFor]
    rcases s.engine.toggle.pauseFor s.clock.now duration with e | t <;> rfl
  | resume => rfl
  | check url => rfl
  | navigate url => rfl
  | advance duration => exact runUntil_rules s _
  | startScheduler period => exact deliver_rules s
  | trigger =>
    rw [perform, trigger]
    rcases s.scheduler with _ | sch <;> rfl
  | stopScheduler => exact stopScheduler_rules s
  | surround files web => rfl

/-- The rules come about by the changes of the history. -/
theorem performAll_rules (s : System) (ops : List Operation) :
    (s.performAll ops).engine.rules = s.engine.rules.changeAll (s.history ops) := by
  induction ops generalizing s with
  | nil => rfl
  | cons op ops ih =>
    rw [performAll_cons, ih, perform_rules, history, RuleSet.changeAll_append]

/-! ## Where the changes of a run come from -/

variable {s : System} {c : RuleChange}

/-- A change is made by hand or brings in a list. -/
theorem isLoad_of_mem_changes {op : Operation} (h : c ∈ s.changes op) :
    op = .change c ∨ c.IsLoad := by
  cases op with
  | change e =>
    rw [List.mem_singleton.mp h]
    exact Or.inl rfl
  | hydrate =>
    rcases List.mem_append.mp h with h | h
    · exact Or.inr (isLoad_of_mem_loadChanges h)
    · exact Or.inr (isLoad_of_mem_refreshChanges h)
  | refresh => exact Or.inr (isLoad_of_mem_refreshChanges h)
  | advance duration => exact Or.inr (isLoad_of_mem_followChanges h)
  | stopScheduler => exact Or.inr (isLoad_of_mem_followChanges h)
  | setEnabled on => cases h
  | pauseFor duration => cases h
  | resume => cases h
  | check url => cases h
  | navigate url => cases h
  | startScheduler period => cases h
  | trigger => cases h
  | surround files web => cases h

theorem isLoad_of_mem_history {ops : List Operation} (h : c ∈ s.history ops) :
    .change c ∈ ops ∨ c.IsLoad := by
  induction ops generalizing s with
  | nil => cases h
  | cons op ops ih =>
    rcases List.mem_append.mp h with h | h
    · rcases isLoad_of_mem_changes h with rfl | hload
      · exact Or.inl (List.mem_cons_self ..)
      · exact Or.inr hload
    · rcases ih h with hop | hload
      · exact Or.inl (List.mem_cons_of_mem _ hop)
      · exact Or.inr hload

end System

end AdFilter
