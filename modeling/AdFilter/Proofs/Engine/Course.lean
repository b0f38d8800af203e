import AdFilter.Proofs.Engine.Pace
import AdFilter.Proofs.Fetch.Leaving

/-!
# The course of a run

`System.course` collects what happens to the lists while operations follow one another, and when:
the passes that the scheduler begins, at a tick or because it was asked to, and how each pass leaves
the lists. From such a course it can be read when the scheduler began its last pass
(`Course.begun`), and when a list was downloaded last (`Course.download?`).
-/

namespace AdFilter

/-- What happens to the lists. -/
inductive Act where
  /-- the scheduler begins a pass, for a period has gone by -/
  | tick
  /-- the scheduler begins a pass that it was asked for -/
  | request
  /-- a pass leaves a list: one of the scheduler's, or one that was asked for directly -/
  | left (scheduled : Bool) (l : Leaving)
deriving Repr, DecidableEq

/-- Whether a list that is left is in the cache for later passes. -/
def Act.IsHeld : Act → Prop
  | .left _ l => l.IsHeld
  | _ => True

instance : (a : Act) → Decidable a.IsHeld
  | .left _ l => inferInstanceAs (Decidable l.IsHeld)
  | .tick | .request => inferInstanceAs (Decidable True)

/-- What happens to the lists, and when, in the order in which it happens. -/
abbrev Course := List (Nat × Act)

/-- The last download of a list. -/
structure Download where
  time : Nat
  /-- whether it was made in a pass of the scheduler -/
  scheduled : Bool
  /-- whether the scheduler has begun a pass since that it was asked for -/
  asked : Bool
deriving Repr, DecidableEq

namespace Course

variable {start : Nat} {acts : Course} {a : Nat × Act} {x : Source}

/-- When the scheduler began its last pass, if it began one at some time before. -/
def begunThen (begun : Nat) : Nat × Act → Nat
  | (_, .left _ _) => begun
  | (time, _) => time

/-- When the scheduler began its last pass, or was started. -/
def begun (start : Nat) (acts : Course) : Nat := acts.foldl begunThen start

/-- Whether the scheduler began its last pass at a tick. -/
def byTick (acts : Course) : Bool :=
  acts.foldl (fun b a => match a.2 with | .tick => true | .request => false | .left _ _ => b) false

/-- The last download of a list, if some download was the last before. -/
def downloadThen? (x : Source) (d : Option Download) : Nat × Act → Option Download
  | (_, .tick) => d
  | (_, .request) => d.map fun d => { d with asked := true }
  | (time, .left scheduled l) =>
    if l.status.source = x ∧ l.status.outcome = some .downloaded then some ⟨time, scheduled, false⟩
    else d

/-- The last download of a list. -/
def download? (x : Source) (acts : Course) : Option Download := acts.foldl (downloadThen? x) none

/-- Whether something is true of each act, given the acts before it. -/
def Each (P : Course → Nat × Act → Prop) : Course → Course → Prop
  | _, [] => True
  | before, a :: acts => P before a ∧ Each P (before ++ [a]) acts

instance decidableEach {P : Course → Nat × Act → Prop} [∀ before a, Decidable (P before a)] :
    (before acts : Course) → Decidable (Each P before acts)
  | _, [] => inferInstanceAs (Decidable True)
  | before, a :: acts =>
    haveI := decidableEach (P := P) (before ++ [a]) acts
    inferInstanceAs (Decidable (_ ∧ _))

/-- Whether a list is left in time: by a pass of the scheduler, or with a download if these are to
be made in time as well. -/
def IsInTime (everyTick : Bool) (limit start : Nat) (before : Course) : Nat × Act → Prop
  | (time, .left scheduled l) =>
    scheduled = true ∨ (everyTick = true ∧ l.status.outcome = some .downloaded) →
      time ≤ begun start before + limit
  | _ => True

instance (everyTick : Bool) (limit start : Nat) (before : Course) :
    (a : Nat × Act) → Decidable (IsInTime everyTick limit start before a)
  | (time, .left scheduled l) => inferInstanceAs (Decidable
      (scheduled = true ∨ (everyTick = true ∧ l.status.outcome = some .downloaded) →
        time ≤ begun start before + limit))
  | (_, .tick) | (_, .request) => inferInstanceAs (Decidable True)

/-! ## One act more -/

@[simp] theorem begun_concat : begun start (acts ++ [a]) = begunThen (begun start acts) a :=
  List.foldl_append

@[simp] theorem download?_concat :
    download? x (acts ++ [a]) = downloadThen? x (download? x acts) a := List.foldl_append

@[simp] theorem byTick_concat_tick {time : Nat} : byTick (acts ++ [(time, .tick)]) = true :=
  List.foldl_append

@[simp] theorem byTick_concat_request {time : Nat} :
    byTick (acts ++ [(time, .request)]) = false := List.foldl_append

@[simp] theorem byTick_concat_left {time : Nat} {scheduled : Bool} {l : Leaving} :
    byTick (acts ++ [(time, .left scheduled l)]) = byTick acts := List.foldl_append

theorem each_append {P : Course → Nat × Act → Prop} {before more : Course} :
    Each P before (acts ++ more) ↔ Each P before acts ∧ Each P (before ++ acts) more := by
  induction acts generalizing before with
  | nil =>
    rw [List.nil_append, List.append_nil]
    exact (iff_of_eq (true_and _)).symm
  | cons b acts ih =>
    rw [List.cons_append, Each, Each, ih, and_assoc, List.append_assoc]
    rfl

theorem each_concat {P : Course → Nat × Act → Prop} :
    Each P [] (acts ++ [a]) ↔ Each P [] acts ∧ P acts a := by
  rw [each_append, List.nil_append, Each, Each, and_true]

end Course

namespace System

/-- How a step of a pass leaves the lists on which it ends the work. -/
def passLeavings (s : System) (p : Pass) : List Leaving :=
  p.leavings s.engine.fetcher s.clock.moment s.stock

/-- The same, as something that happens now. -/
def passActs (s : System) (scheduled : Bool) (p : Pass) : Course :=
  (s.passLeavings p).map fun l => (s.clock.timer, .left scheduled l)

/-- What happens to the lists when the scheduler does what is due. -/
def schedulerActs (s : System) (sch : Scheduler) : Course :=
  match sch.phase with
  | .failed => []
  | .busy p => s.passActs true p
  | .idle =>
    if sch.next ≤ s.clock.timer then [(s.clock.timer, .tick)]
    else if sch.queued && !(sch.takeRequest s.clock.timer).hasFailed then
      [(s.clock.timer, .request)]
    else []

/-- What happens to the lists by what is done at the time when it is due. -/
def stepActs (s : System) (time : Nat) (e : Event) : Course :=
  let s := { s with clock := { s.clock with timer := time } }
  match e with
  | .pass p => s.passActs false p
  | .scheduler sch => s.schedulerActs sch
  | .reporter _ => []

/-- What happens to the lists in the course of a refresh. -/
def refreshActs (s : System) : Course :=
  if (Pass.start s.deliver.engine.fetcher).isDone then []
  else gather stepActs dueInPass? s.passFuel s.beginPass

/-- What happens to the lists in the course of an operation. -/
def acts (s : System) : Operation → Course
  | .hydrate => s.load.refreshActs
  | .refresh => s.refreshActs
  | .advance duration =>
    gather stepActs (dueBy? (s.clock.timer + duration)) (s.stepsWithin
      (s.clock.timer + duration - s.clock.timer)) s.deliver
  | .stopScheduler => gather stepActs dueWhileBusy? s.passFuel s.deliver
  | _ => []

/-- What happens to the lists in the course of operations, one after the other. -/
def course (s : System) : List Operation → Course
  | [] => []
  | op :: ops => s.acts op ++ (s.perform op).course ops

/-! ## A step of a pass -/

variable {s : System}

theorem stepPass_stock (s : System) (p : Pass) :
    (s.stepPass p).stock = (p.step s.engine.fetcher s.clock.moment s.stock).2 := by
  rw [stepPass]
  dsimp only
  split <;> rfl

theorem stepPass_frame (s : System) (p : Pass) :
    (s.stepPass p).clock = s.clock ∧ (s.stepPass p).scheduler = s.scheduler := by
  rw [stepPass]
  dsimp only
  split <;> exact ⟨rfl, rfl⟩

theorem stepScheduler_of_busy {sch : Scheduler} {p : Pass} (hphase : sch.phase = .busy p) :
    let next := p.step s.engine.fetcher s.clock.moment s.stock
    (s.stepScheduler sch).files = next.2.files ∧ (s.stepScheduler sch).scheduler =
      some { sch with phase := if next.1.isDone then .idle else .busy next.1 } := by
  rw [stepScheduler, hphase]
  dsimp only
  split <;> exact ⟨rfl, rfl⟩

/-- A step of a pass leaves no list, and goes on, or it leaves one. -/
theorem passActs_cases {p : Pass} (hp : p.IsUnderWay s.engine.fetcher) (scheduled : Bool) :
    let next := p.step s.engine.fetcher s.clock.moment s.stock
    ∃ made, Pass.Move s.engine.fetcher s.clock.moment p s.stock made next.1 next.2 ∧
      ((s.passActs scheduled p = [] ∧ next.1.finished = p.finished ∧ next.1.isDone = false ∧
          next.2.files = s.files) ∨
        ∃ y, p.ended next.1 = [y] ∧ s.passActs scheduled p = [(s.clock.timer, .left scheduled
          (Pass.leaving s.engine.fetcher s.clock.moment s.stock next.2 y))]) := by
  intro next
  obtain ⟨made, hmove⟩ := Pass.step_move hp.isDone_eq (f := s.engine.fetcher) s.clock.moment s.stock
  refine ⟨made, hmove, ?_⟩
  have hfinished := hmove.finished_eq
  rw [passActs, passLeavings, Pass.leavings]
  rcases hmove.ended_cases with ⟨hended, hdone, hfiles⟩ | ⟨x, text, hended, -⟩ |
      ⟨x, a, y, hended, -⟩ <;> rw [hended]
  · rw [hended, List.append_nil] at hfinished
    exact Or.inl ⟨rfl, hfinished, hdone, hfiles⟩
  · exact Or.inr ⟨_, rfl, rfl⟩
  · exact Or.inr ⟨_, rfl, rfl⟩

end System

end AdFilter
