import AdFilter.Engine.Toggle
import AdFilter.Fetch.Pass

/-!
# The scheduler

The scheduler starts a refresh pass whenever its period has gone by, or at once when it is asked
to. One request can wait while a pass is under way; ticks that a long pass has delayed are made up
for one after another. A pass that was asked for begins a new period.
-/

namespace AdFilter

/-- What the scheduler is doing. -/
inductive SchedulerPhase where
  /-- waiting for a tick or a request -/
  | idle
  /-- a pass is under way -/
  | busy (pass : Pass)
  /-- its clock could not tell the next tick, and it has ended -/
  | failed

/-- The scheduler. Times count milliseconds. -/
structure Scheduler where
  period : Nat
  /-- when the next tick is due -/
  next : Nat
  /-- whether a request waits -/
  queued : Bool := false
  phase : SchedulerPhase := .idle

namespace Scheduler

/-- A scheduler whose first period begins now. It cannot do without a period. -/
def start (period now : Nat) : Scheduler :=
  { period := period, next := now + period, phase := if period = 0 then .failed else .idle }

def hasFailed (s : Scheduler) : Bool :=
  match s.phase with
  | .failed => true
  | _ => false

/-- Asks for a pass, and tells whether the request was accepted. -/
def trigger (s : Scheduler) : Bool × Scheduler :=
  if s.queued || s.hasFailed then (false, s) else (true, { s with queued := true })

/-- Takes note of a tick that is due: the next one follows after a period. -/
def takeTick (s : Scheduler) : Scheduler := { s with next := s.next + s.period }

/-- Takes the request that waits: a new period begins. -/
def takeRequest (s : Scheduler) (now : Nat) : Scheduler :=
  if now + s.period < Toggle.endOfTime then
    { s with queued := false, next := now + s.period }
  else { s with queued := false, phase := .failed }

/-- When something is due next. -/
def due? (f : Fetcher) (now : Nat) (s : Scheduler) : Option Nat :=
  match s.phase with
  | .failed => none
  | .busy p => p.due? f now
  | .idle => some (if s.queued then now else max now s.next)

end Scheduler

end AdFilter
